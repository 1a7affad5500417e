import FleetSizing.Proofs.Distinct
import FleetSizing.Proofs.Placed
import FleetSizing.Proofs.Scalar.Order
import FleetSizing.Proofs.Selection.Candidates
import Mathlib.Order.WithBot

/-! The order in which shapes are selected. It is a strict order on the places of the catalog, so that there
is one list of the admissible places in that order, and what is selected are the shapes at its head. -/
namespace FleetSizing.Selection

variable {α : Type}

/-- Accepted by some rule that prefers shapes of the cloud. -/
def Preferred (rules : RuleSet) (cloud : Cloud) (s : Shape α) : Prop :=
  ∃ rule ∈ rules, rule.action = .prioritize ∧ rule.cloud = cloud ∧ rule.accepts s

/-- Preferred shapes come first, then the series of the current shape, then its family. -/
def EarlierSegment (rules : RuleSet) (current s t : Shape α) : Prop :=
  Preferred rules current.cloud s ∧ ¬ Preferred rules current.cloud t ∨
    ¬ Preferred rules current.cloud s ∧ ¬ Preferred rules current.cloud t ∧
      (tier current s).rank < (tier current t).rank

def SameSegment (rules : RuleSet) (current s t : Shape α) : Prop :=
  Preferred rules current.cloud s ∧ Preferred rules current.cloud t ∨
    ¬ Preferred rules current.cloud s ∧ ¬ Preferred rules current.cloud t ∧
      tier current s = tier current t

/-- Smaller by cpu and then by memory, or cheaper; what has no price is the most expensive. -/
def Better [LT α] (sorting : Sorting) (price : Shape α → Option α) (s t : Shape α) : Prop :=
  match sorting with
  | .size => s.cpu < t.cpu ∨ ¬ t.cpu < s.cpu ∧ s.memory < t.memory
  | .price => ∃ a, price s = some a ∧ ∀ b, price t = some b → a < b

/-- Of two shapes with their places in the catalog, the first ranks before the second. -/
def RanksBefore [LT α] (rules : RuleSet) (sorting : Sorting) (price : Shape α → Option α)
    (current : Shape α) (p q : Shape α × Nat) : Prop :=
  EarlierSegment rules current p.1 q.1 ∨ SameSegment rules current p.1 q.1 ∧
    (Better sorting price p.1 q.1 ∨ ¬ Better sorting price q.1 p.1 ∧ p.2 < q.2)

/-- The shapes that may be recommended, with their places in the catalog, in the order of their ranks. -/
structure IsRanking [Scalar α] (rules : RuleSet) (settings : Settings α) (price : Shape α → Option α)
    (current : Shape α) (r : Requirement α) (catalog : List (Shape α)) (ranked : List (Shape α × Nat)) :
    Prop where
  mem_iff : ∀ s i, (s, i) ∈ ranked ↔
    catalog[i]? = some s ∧ Admissible rules settings current s ∧ r.satisfiedBy s
  ordered : ranked.Pairwise (RanksBefore rules settings.sorting price current)

section

variable {rules : RuleSet} {current s t : Shape α}

theorem segment_of_preferred (h : Preferred rules current.cloud s) : segment rules current s = 0 :=
  if_pos (matched_iff.mpr h)

theorem segment_of_not_preferred (h : ¬ Preferred rules current.cloud s) :
    segment rules current s = (tier current s).rank + 1 :=
  if_neg fun hmatched => h (matched_iff.mp hmatched)

theorem segment_lt_iff : segment rules current s < segment rules current t ↔
    EarlierSegment rules current s t := by
  by_cases hs : Preferred rules current.cloud s
  · by_cases ht : Preferred rules current.cloud t
    · simp [EarlierSegment, segment_of_preferred, hs, ht]
    · simp [EarlierSegment, segment_of_preferred, segment_of_not_preferred, hs, ht]
  · by_cases ht : Preferred rules current.cloud t
    · simp [EarlierSegment, segment_of_preferred, hs, ht]
    · simp [EarlierSegment, segment_of_not_preferred, hs, ht]

theorem segment_eq_iff : segment rules current s = segment rules current t ↔
    SameSegment rules current s t := by
  have hrank : ∀ a b : Tier, a.rank = b.rank ↔ a = b := by
    intro a b
    cases a <;> cases b <;> decide
  by_cases hs : Preferred rules current.cloud s
  · by_cases ht : Preferred rules current.cloud t
    · simp [SameSegment, segment_of_preferred, hs, ht]
    · simp [SameSegment, segment_of_preferred, segment_of_not_preferred, hs, ht]
  · by_cases ht : Preferred rules current.cloud t
    · simp [SameSegment, segment_of_preferred, segment_of_not_preferred, hs, ht]
    · simp [SameSegment, segment_of_not_preferred, hs, ht, hrank]

end

variable [Scalar α] {rules rules' : RuleSet} {settings : Settings α} {sorting : Sorting}
  {price : Shape α → Option α} {current : Shape α} {r : Requirement α} {catalog : List (Shape α)}

def candidate (rules : RuleSet) (price : Shape α → Option α) (current s : Shape α) : Candidate α :=
  ⟨s, segment rules current s, price s⟩

/-- What decides the place of a shape is finite. -/
structure Comparable (price : Shape α → Option α) (s : Shape α) : Prop where
  cpu : Scalar.isFinite s.cpu
  memory : Scalar.isFinite s.memory
  price : ∀ x, price s = some x → Scalar.isFinite x

section

variable [Scalar.IsOrdered α] {s t : Shape α}

theorem cheaper_iff (hs : Comparable price s) : cheaper (price s) (price t) ↔
    ∃ a, price s = some a ∧ ∀ b, price t = some b → a < b := by
  cases ha : price s with
  | none => simp [cheaper]
  | some a =>
    cases price t with
    | none => simp [cheaper, Scalar.IsOrdered.isBounded a (hs.price a ha)]
    | some b => simp [cheaper]

theorem precedes_iff (hs : Comparable price s) :
    precedes sorting (candidate rules price current s) (candidate rules price current t) ↔
      EarlierSegment rules current s t ∨
        SameSegment rules current s t ∧ Better sorting price s t := by
  rw [← segment_lt_iff, ← segment_eq_iff]
  cases sorting with
  | size =>
    simp only [precedes, smallerSize, Bool.or_eq_true, Bool.and_eq_true, decide_eq_true_iff,
      beq_iff_eq, Bool.not_eq_true', decide_eq_false_iff_not]
    exact Iff.rfl
  | price =>
    simp only [precedes, Bool.or_eq_true, Bool.and_eq_true, decide_eq_true_iff, beq_iff_eq]
    exact or_congr_right (and_congr_right fun _ => cheaper_iff hs)

/-- Within a segment shapes compare by keys out of a linear order. -/
theorem exists_key (sorting : Sorting) (price : Shape α → Option α) :
    ∃ (κ : Type) (_ : LinearOrder κ) (key : Shape α → κ), ∀ s t : Shape α,
      Comparable price s → Comparable price t → (Better sorting price s t ↔ key s < key t) := by
  obtain ⟨κ, _, key, hkey⟩ := Scalar.IsOrdered.exists_key (α := α)
  cases sorting with
  | size =>
    refine ⟨κ ×ₗ κ, inferInstance, fun s => toLex (key s.cpu, key s.memory), fun s t hs ht => ?_⟩
    rw [Prod.Lex.toLex_lt_toLex, Better, hkey _ _ hs.cpu ht.cpu, hkey _ _ ht.cpu hs.cpu,
      hkey _ _ hs.memory ht.memory]
    constructor
    · rintro (hcpu | ⟨hcpu, hmemory⟩)
      · exact Or.inl hcpu
      · exact (not_lt.mp hcpu).lt_or_eq.imp_right fun heq => ⟨heq, hmemory⟩
    · rintro (hcpu | ⟨hcpu, hmemory⟩)
      · exact Or.inl hcpu
      · exact Or.inr ⟨not_lt.mpr hcpu.le, hmemory⟩
  | price =>
    let keyOf : Option α → WithTop κ := fun p => p.elim ⊤ fun x => (key x : WithTop κ)
    refine ⟨WithTop κ, inferInstance, fun s => keyOf (price s), fun s t hs ht => ?_⟩
    change (∃ a, price s = some a ∧ ∀ b, price t = some b → a < b) ↔ keyOf (price s) < keyOf (price t)
    cases ha : price s with
    | none => simp [keyOf]
    | some a =>
      cases hb : price t with
      | none => simp [keyOf]
      | some b => simp [keyOf, hkey a b (hs.price a ha) (ht.price b hb)]

omit [Scalar.IsOrdered α] in
/-- Places compare by segment, by key and by place. -/
theorem ranksBefore_iff {κ : Type} [LinearOrder κ] {key : Shape α → κ}
    (hkey : ∀ s t : Shape α, Comparable price s → Comparable price t →
      (Better sorting price s t ↔ key s < key t))
    {p q : Shape α × Nat} (hp : Comparable price p.1) (hq : Comparable price q.1) :
    RanksBefore rules sorting price current p q ↔
      let rank := fun s => toLex (segment rules current s, key s)
      rank p.1 < rank q.1 ∨ rank p.1 = rank q.1 ∧ p.2 < q.2 := by
  simp only [RanksBefore, ← segment_lt_iff, ← segment_eq_iff, hkey _ _ hp hq, hkey _ _ hq hp,
    Prod.Lex.toLex_lt_toLex, EmbeddingLike.apply_eq_iff_eq, Prod.mk.injEq, not_lt]
  constructor
  · rintro (hsegment | ⟨hsegment, hless | ⟨hle, hplace⟩⟩)
    · exact Or.inl (Or.inl hsegment)
    · exact Or.inl (Or.inr ⟨hsegment, hless⟩)
    · rcases hle.lt_or_eq with hless | heq
      · exact Or.inl (Or.inr ⟨hsegment, hless⟩)
      · exact Or.inr ⟨⟨hsegment, heq⟩, hplace⟩
  · rintro ((hsegment | ⟨hsegment, hless⟩) | ⟨⟨hsegment, heq⟩, hplace⟩)
    · exact Or.inl hsegment
    · exact Or.inr ⟨hsegment, Or.inl hless⟩
    · exact Or.inr ⟨hsegment, Or.inr ⟨heq.le, hplace⟩⟩

theorem RanksBefore.asymm {p q : Shape α × Nat} (hp : Comparable price p.1)
    (hq : Comparable price q.1) (h : RanksBefore rules sorting price current p q) :
    ¬ RanksBefore rules sorting price current q p := by
  obtain ⟨κ, _, key, hkey⟩ := exists_key sorting price
  rw [ranksBefore_iff hkey hq hp]
  rw [ranksBefore_iff hkey hp hq] at h
  rintro (hrank | ⟨hrank, hplace⟩)
  · rcases h with hrank' | ⟨hrank', -⟩
    · exact lt_asymm hrank hrank'
    · exact hrank.ne hrank'.symm
  · rcases h with hrank' | ⟨-, hplace'⟩
    · exact hrank'.ne hrank.symm
    · exact lt_asymm hplace hplace'

/-- There is no other list of the same places in the order of their ranks. -/
theorem IsRanking.unique {ranked ranked' : List (Shape α × Nat)}
    (hcatalog : ∀ s ∈ catalog, Comparable price s)
    (h : IsRanking rules settings price current r catalog ranked)
    (h' : IsRanking rules settings price current r catalog ranked') : ranked' = ranked := by
  have hcomparable : ∀ p ∈ ranked, Comparable price p.1 :=
    fun p hp => hcatalog p.1 (List.mem_of_getElem? ((h.mem_iff p.1 p.2).mp hp).1)
  refine eq_of_pairwise (fun p hp q hq hpq => ?_) (fun p => ?_) h.ordered h'.ordered
  · exact hpq.asymm (hcomparable p hp) (hcomparable q hq)
  · exact (h'.mem_iff p.1 p.2).trans (h.mem_iff p.1 p.2).symm

theorem exists_isRanking (rules : RuleSet) (settings : Settings α) (current : Shape α)
    (r : Requirement α) (hcatalog : ∀ s ∈ catalog, Comparable price s) :
    ∃ ranked, IsRanking rules settings price current r catalog ranked ∧
      ranked.map (·.1) = ranking rules settings price current r catalog := by
  obtain ⟨κ, _, key, hkey⟩ := exists_key settings.sorting price
  let places := catalog.zipIdx.filter fun p => eligible rules settings current r p.1
  have hmem : ∀ s i, (s, i) ∈ places ↔
      catalog[i]? = some s ∧ eligible rules settings current r s := by
    simp [places, List.mem_zipIdx_iff_getElem?]
  have hcomparable : ∀ p ∈ places, Comparable price p.1 :=
    fun p hp => hcatalog p.1 (List.mem_of_getElem? ((hmem p.1 p.2).mp hp).1)
  have hlabels : places.Pairwise fun p q => p.2 < q.2 := (Placed.pairwise_zipIdx catalog).filter _
  let rank := fun s => toLex (segment rules current s, key s)
  let earlier := fun s t =>
    precedes settings.sorting (candidate rules price current s) (candidate rules price current t)
  have hearlier : ∀ p ∈ places, ∀ q ∈ places, (earlier p.1 q.1 ↔ rank p.1 < rank q.1) := by
    intro p hp q hq
    rw [precedes_iff (hcomparable p hp), ← segment_lt_iff, ← segment_eq_iff,
      hkey _ _ (hcomparable p hp) (hcomparable q hq), Prod.Lex.toLex_lt_toLex]
  obtain ⟨ranked, hperm, hordered, hmap⟩ := Placed.exists_sorted rank earlier hlabels hearlier
  refine ⟨ranked, ⟨fun s i => ?_, ?_⟩, ?_⟩
  · rw [hperm.mem_iff, hmem, eligible_iff]
  · refine hordered.imp_of_mem fun hp hq hpq => ?_
    exact (ranksBefore_iff hkey (hcomparable _ (hperm.mem_iff.mp hp))
      (hcomparable _ (hperm.mem_iff.mp hq))).mpr hpq
  · have hplaces : places.map (·.1) = catalog.filter (eligible rules settings current r) := by
      conv_rhs => rw [← List.zipIdx_map_fst 0 catalog, List.filter_map]
      rfl
    have hsort : (catalog.filter (eligible rules settings current r)).mergeSort
        (fun s t => !precedes settings.sorting (candidate rules price current t)
          (candidate rules price current s)) = ranking rules settings price current r catalog := by
      have hshape : (·.shape) ∘ candidate rules price current = id := rfl
      rw [← List.map_id (List.mergeSort _ _), ← hshape, ← List.map_map,
        List.map_mergeSort (s := fun a b => !precedes settings.sorting b a) fun _ _ _ _ => rfl]
      rfl
    rw [hmap, hplaces, hsort]

end

section

variable (h : ∀ rule, rule.cloud = current.cloud → (rule ∈ rules' ↔ rule ∈ rules))

include h

omit [Scalar α] in
theorem mem_stage_congr {action : RuleAction} {rule : CompiledRule} :
    rule ∈ rules'.stage action current.cloud ↔ rule ∈ rules.stage action current.cloud := by
  rw [mem_stage, mem_stage]
  exact and_congr_left fun hrule => h rule hrule.2

omit [Scalar α] in
theorem matched_congr (action : RuleAction) (s : Shape α) :
    matched rules' action current.cloud s = matched rules action current.cloud s := by
  rw [Bool.eq_iff_iff, matched, matched, List.any_eq_true, List.any_eq_true]
  simp only [mem_stage_congr h]

omit [Scalar α] in
theorem isEmpty_stage_congr (action : RuleAction) :
    (rules'.stage action current.cloud).isEmpty = (rules.stage action current.cloud).isEmpty := by
  rw [Bool.eq_iff_iff, List.isEmpty_iff, List.isEmpty_iff, List.eq_nil_iff_forall_not_mem,
    List.eq_nil_iff_forall_not_mem]
  simp only [mem_stage_congr h]

theorem ranking_congr : ranking rules' settings price current r catalog =
    ranking rules settings price current r catalog := by
  have hsegment : segment rules' current = segment rules current := by
    funext s
    rw [segment, segment, matched_congr h]
  have heligible : eligible rules' settings current r = eligible rules settings current r := by
    funext s
    rw [eligible, eligible, permitted, permitted, matched_congr h, matched_congr h,
      isEmpty_stage_congr h]
  rw [ranking, ranking, hsegment, heligible]

end

/-- What is selected is the head of the one list of all admissible shapes that is in the order of the ranks.
Of the rules only those for the cloud count, and neither their order nor their repetitions do. -/
theorem select_eq_take [Scalar.IsOrdered α] (rules : RuleSet) (settings : Settings α)
    (price : Shape α → Option α) (current : Shape α) (r : Requirement α) (catalog : List (Shape α))
    (hcatalog : ∀ s ∈ catalog, Comparable price s) :
    (∃ ranked, IsRanking rules settings price current r catalog ranked ∧
      (∀ other, IsRanking rules settings price current r catalog other → other = ranked) ∧
      select rules settings price current r catalog =
        (ranked.map (·.1)).take settings.maxRecommendedShapes) ∧
    ∀ rules' : RuleSet, (∀ rule, rule.cloud = current.cloud → (rule ∈ rules' ↔ rule ∈ rules)) →
      select rules' settings price current r catalog = select rules settings price current r catalog := by
  constructor
  · obtain ⟨ranked, hranked, hmap⟩ := exists_isRanking rules settings current r hcatalog
    exact ⟨ranked, hranked, fun other hother => hranked.unique hcatalog hother, by rw [hmap, select]⟩
  · intro rules' hrules
    rw [select, select, ranking_congr hrules]

end FleetSizing.Selection

namespace FleetSizing.Selection

/-! Two smaller shapes for a resource, the larger of which a rule prefers. -/
namespace Preference

def current : Shape Float := ⟨"m5.xlarge", .aws, 4, 16, 0, 0, "", "", ""⟩

def small : Shape Float := ⟨"m5.large", .aws, 2, 8, 0, 0, "", "", ""⟩

def preferred : Shape Float := ⟨"r5.large", .aws, 2, 16, 0, 0, "", "", ""⟩

def catalog : List (Shape Float) := [small, current, preferred]

def requirement : Requirement Float := ⟨.scaleDown, 1, 4, none, none, false, current⟩

def rule : CompiledRule := ⟨"r", .aws, .prioritize, .name, .contains "r5"⟩

def foreign : CompiledRule := ⟨"f", .google, .deny, .name, .contains "r5"⟩

theorem comparable : ∀ s ∈ catalog, Comparable (fun _ => none) s := by
  intro s hs
  have hfinite : ∀ s ∈ catalog, Scalar.isFinite s.cpu ∧ Scalar.isFinite s.memory := by decide
  exact ⟨(hfinite s hs).1, (hfinite s hs).2, by simp⟩

theorem isRanking : IsRanking [rule] Settings.default (fun _ => none) current requirement catalog
    [(preferred, 2), (small, 0)] := by
  have hsmall : eligible [rule] Settings.default current requirement small = true := by
    decide
  have hcurrent : eligible [rule] Settings.default current requirement current = false := by
    decide
  have hpreferred : eligible [rule] Settings.default current requirement preferred = true := by
    decide
  refine ⟨fun s i => ?_, ?_⟩
  · rw [← eligible_iff]
    constructor
    · intro hmem
      simp only [List.mem_cons, Prod.mk.injEq, List.not_mem_nil, or_false] at hmem
      rcases hmem with ⟨rfl, rfl⟩ | ⟨rfl, rfl⟩
      · exact ⟨rfl, hpreferred⟩
      · exact ⟨rfl, hsmall⟩
    · rintro ⟨hplace, heligible⟩
      match i, hplace with
      | 0, hplace =>
        cases hplace
        simp
      | 1, hplace =>
        cases hplace
        simp [hcurrent] at heligible
      | 2, hplace =>
        cases hplace
        simp
  · have hmatched : matched [rule] .prioritize current.cloud preferred ∧
        ¬ matched [rule] .prioritize current.cloud small := by decide
    rw [matched_iff, matched_iff] at hmatched
    exact List.pairwise_pair.mpr (Or.inl (Or.inl hmatched))

end Preference

theorem select_eq_take_preference :
    (∀ s ∈ Preference.catalog, Comparable (fun _ => none) s) ∧
    select [Preference.rule] Settings.default (fun _ => none) Preference.current
      Preference.requirement Preference.catalog = [Preference.preferred, Preference.small] ∧
    select [Preference.rule, Preference.foreign, Preference.rule] Settings.default (fun _ => none)
      Preference.current Preference.requirement Preference.catalog =
        [Preference.preferred, Preference.small] := by
  obtain ⟨⟨ranked, -, hunique, hselect⟩, hrules⟩ := select_eq_take [Preference.rule] Settings.default
    (fun _ => none) Preference.current Preference.requirement Preference.catalog Preference.comparable
  rw [← hunique _ Preference.isRanking] at hselect
  refine ⟨Preference.comparable, hselect, (hrules _ fun rule hcloud => ?_).trans hselect⟩
  have hforeign : rule ≠ Preference.foreign := by
    rintro rfl
    cases hcloud
  simp [hforeign]

end FleetSizing.Selection
