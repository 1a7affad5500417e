import FleetSizing.Proofs.Selection.Order
import Mathlib.Logic.Relation

/-! A stricter policy drops shapes from a selection and leaves the others in their order. -/
namespace FleetSizing.Selection

variable {α : Type}

/-- Rules with more that deny, put in anywhere. -/
inductive DeniesMore : RuleSet → RuleSet → Prop where
  | nil : DeniesMore [] []
  | keep {rules rules' : RuleSet} (rule : CompiledRule) :
      DeniesMore rules rules' → DeniesMore (rule :: rules) (rule :: rules')
  | deny {rules rules' : RuleSet} {rule : CompiledRule} :
      rule.action = .deny → DeniesMore rules rules' → DeniesMore rules (rule :: rules')

/-- One step towards a stricter policy, of rules and settings. -/
inductive Tightens : RuleSet × Settings α → RuleSet × Settings α → Prop where
  | onlyCompatible {rules : RuleSet} {settings : Settings α} : settings.compatibility = .any →
      Tightens (rules, settings) (rules, { settings with compatibility := .onlyCompatible })
  | onlySame {rules : RuleSet} {settings : Settings α} : settings.compatibility = .onlyCompatible →
      Tightens (rules, settings) (rules, { settings with compatibility := .onlySame })
  | keepFamily {rules : RuleSet} {settings : Settings α} :
      ¬ settings.forbidChangeSeries → ¬ settings.forbidChangeFamily →
      Tightens (rules, settings) (rules, { settings with forbidChangeFamily := true })
  /-- What is said of the family no longer matters. -/
  | keepSeries {rules : RuleSet} {settings : Settings α} (family : Bool) :
      ¬ settings.forbidChangeSeries → settings.forbidChangeFamily →
      Tightens (rules, settings)
        (rules, { settings with forbidChangeSeries := true, forbidChangeFamily := family })
  | deny {rules rules' : RuleSet} {settings : Settings α} : DeniesMore rules rules' →
      Tightens (rules, settings) (rules', settings)

/-- A policy that lets fewer shapes pass, and ranks them as another does. -/
structure Narrows (p q : RuleSet × Settings α) : Prop where
  sorting : q.2.sorting = p.2.sorting
  limit : q.2.maxRecommendedShapes = p.2.maxRecommendedShapes
  preferred : ∀ (cloud : Cloud) (s : Shape α), Preferred q.1 cloud s ↔ Preferred p.1 cloud s
  admissible : ∀ {current s : Shape α}, Admissible q.1 q.2 current s → Admissible p.1 p.2 current s

variable {p q : RuleSet × Settings α} {rules rules' : RuleSet} {settings : Settings α} {current s : Shape α}

theorem Narrows.refl (p : RuleSet × Settings α) : Narrows p p :=
  ⟨rfl, rfl, fun _ _ => Iff.rfl, id⟩

theorem Narrows.trans {o : RuleSet × Settings α} (h : Narrows o p) (h' : Narrows p q) : Narrows o q :=
  ⟨h'.sorting.trans h.sorting, h'.limit.trans h.limit,
    fun cloud s => (h'.preferred cloud s).trans (h.preferred cloud s), fun hs => h.admissible (h'.admissible hs)⟩

theorem DeniesMore.mem_iff (h : DeniesMore rules rules') {rule : CompiledRule} (hrule : rule.action ≠ .deny) :
    rule ∈ rules' ↔ rule ∈ rules := by
  induction h with
  | nil => exact Iff.rfl
  | keep other _ ih => rw [List.mem_cons, List.mem_cons, ih]
  | deny hdeny _ ih =>
    rw [List.mem_cons, ih]
    refine or_iff_right ?_
    rintro rfl
    exact hrule hdeny

theorem DeniesMore.subset (h : DeniesMore rules rules') : rules ⊆ rules' := by
  induction h with
  | nil => exact List.Subset.refl _
  | keep rule _ ih => exact List.cons_subset_cons rule ih
  | deny _ _ ih => exact List.subset_cons_of_subset _ ih

theorem DeniesMore.narrows (h : DeniesMore rules rules') : Narrows (rules, settings) (rules', settings) := by
  -- Of the rules that do not deny none has come or gone.
  have hsome : ∀ (f : CompiledRule → Prop) (action : RuleAction), action ≠ .deny →
      ((∃ rule ∈ rules', rule.action = action ∧ f rule) ↔ ∃ rule ∈ rules, rule.action = action ∧ f rule) := by
    intro f action hne
    refine exists_congr fun rule => ?_
    constructor
    · rintro ⟨hmem, haction, hf⟩
      exact ⟨(h.mem_iff (haction ▸ hne)).mp hmem, haction, hf⟩
    · rintro ⟨hmem, haction, hf⟩
      exact ⟨h.subset hmem, haction, hf⟩
  refine ⟨rfl, rfl, fun cloud s => hsome _ .prioritize nofun, fun hs => ?_⟩
  refine ⟨hs.cloud, hs.compatible, hs.series, hs.family, ?_, ?_⟩
  · exact fun rule hrule => hs.not_denied rule (h.subset hrule)
  · rw [← hsome _ .allow nofun, ← hsome _ .allow nofun]
    exact hs.allowed

/-- The modes of compatibility are nested. -/
theorem isCompatible_of_onlySame (h : current.isCompatible .onlySame s) :
    current.isCompatible .onlyCompatible s := by
  simp only [Shape.isCompatible, Bool.and_eq_true, beq_iff_eq] at h
  obtain ⟨hvendor, harchitecture⟩ := h
  simp only [Shape.isCompatible, ← hvendor]
  cases current.vendor with
  | intel | amd | aws => rfl
  | unknown => exact harchitecture

theorem Tightens.narrows (h : Tightens p q) : Narrows p q := by
  cases h with
  | onlyCompatible hmode =>
    refine ⟨rfl, rfl, fun _ _ => Iff.rfl, fun hs => ?_⟩
    refine ⟨hs.cloud, ?_, hs.series, hs.family, hs.not_denied, hs.allowed⟩
    rw [hmode]
    rfl
  | onlySame hmode =>
    refine ⟨rfl, rfl, fun _ _ => Iff.rfl, fun hs => ?_⟩
    refine ⟨hs.cloud, ?_, hs.series, hs.family, hs.not_denied, hs.allowed⟩
    rw [hmode]
    exact isCompatible_of_onlySame hs.compatible
  | keepFamily hseries hfamily =>
    refine ⟨rfl, rfl, fun _ _ => Iff.rfl, fun hs => ?_⟩
    exact ⟨hs.cloud, hs.compatible, fun h => (hseries h).elim, fun h => (hfamily h).elim, hs.not_denied,
      hs.allowed⟩
  | keepSeries family hseries hfamily =>
    refine ⟨rfl, rfl, fun _ _ => Iff.rfl, fun hs => ?_⟩
    have htier := hs.series rfl
    exact ⟨hs.cloud, hs.compatible, fun _ => htier, fun _ => htier ▸ nofun, hs.not_denied, hs.allowed⟩
  | deny hrules => exact hrules.narrows

/-- So does any number of steps. -/
theorem narrows_of_steps (h : Relation.ReflTransGen Tightens p q) : Narrows p q := by
  induction h with
  | refl => exact .refl p
  | tail _ hstep ih => exact ih.trans hstep.narrows

theorem Narrows.ranksBefore_iff [LT α] (h : Narrows p q) {price : Shape α → Option α} {a b : Shape α × Nat} :
    RanksBefore q.1 q.2.sorting price current a b ↔ RanksBefore p.1 p.2.sorting price current a b := by
  simp only [RanksBefore, EarlierSegment, SameSegment, h.preferred, h.sorting]

variable [Scalar α] {price : Shape α → Option α} {r : Requirement α}
  {catalog : List (Shape α)}

/-- A ranking without the shapes that do not pass is the ranking of those that do. -/
theorem Narrows.isRanking_filter (h : Narrows p q) {ranked : List (Shape α × Nat)}
    (hranked : IsRanking p.1 p.2 price current r catalog ranked) :
    IsRanking q.1 q.2 price current r catalog (ranked.filter fun a => eligible q.1 q.2 current r a.1) where
  mem_iff s i := by
    rw [List.mem_filter, hranked.mem_iff, eligible_iff]
    constructor
    · rintro ⟨⟨hplace, -, -⟩, hs⟩
      exact ⟨hplace, hs⟩
    · rintro ⟨hplace, hadmissible, hsatisfied⟩
      exact ⟨⟨hplace, h.admissible hadmissible, hsatisfied⟩, hadmissible, hsatisfied⟩
  ordered := (hranked.ordered.imp fun hab => h.ranksBefore_iff.mpr hab).filter _

theorem Narrows.ranking_eq_filter [Scalar.IsOrdered α] (h : Narrows p q) (hcatalog : ∀ s ∈ catalog, Comparable price s) :
    ranking q.1 q.2 price current r catalog =
      (ranking p.1 p.2 price current r catalog).filter (eligible q.1 q.2 current r) := by
  obtain ⟨ranked, hranked, hmap⟩ := exists_isRanking p.1 p.2 current r hcatalog
  obtain ⟨ranked', hranked', hmap'⟩ := exists_isRanking q.1 q.2 current r hcatalog
  have hfilter := IsRanking.unique hcatalog (h.isRanking_filter hranked) hranked'
  rw [← hmap', ← hmap, hfilter, List.filter_map]
  rfl

/-- Where the limit has room for the whole catalog, all that is ranked is selected. -/
theorem select_eq_ranking {settings : Settings α} (hlimit : catalog.length ≤ settings.maxRecommendedShapes) :
    select rules settings price current r catalog = ranking rules settings price current r catalog := by
  rw [select, List.take_of_length_le]
  rw [(ranking_perm ..).length_eq]
  exact Nat.le_trans (List.length_filter_le ..) hlimit

/-- Under a stricter policy the selection is what it was without the shapes that no longer pass, in the same
order. -/
theorem select_of_stricter [Scalar.IsOrdered α] (h : Relation.ReflTransGen Tightens p q) (price : Shape α → Option α)
    (current : Shape α) (r : Requirement α) (hcatalog : ∀ s ∈ catalog, Comparable price s)
    (hlimit : catalog.length ≤ p.2.maxRecommendedShapes) :
    select q.1 q.2 price current r catalog =
        (select p.1 p.2 price current r catalog).filter (eligible q.1 q.2 current r) ∧
      (select q.1 q.2 price current r catalog).Sublist (select p.1 p.2 price current r catalog) := by
  have hnarrows := narrows_of_steps h
  have hselect : select q.1 q.2 price current r catalog =
      (select p.1 p.2 price current r catalog).filter (eligible q.1 q.2 current r) := by
    rw [select_eq_ranking hlimit, select_eq_ranking (hnarrows.limit.symm ▸ hlimit),
      hnarrows.ranking_eq_filter hcatalog]
  exact ⟨hselect, hselect ▸ List.filter_sublist⟩

end FleetSizing.Selection

namespace FleetSizing.Selection

/-! The two smaller shapes once more. The preferred one is of another family, and a rule denies it as well. -/
namespace Preference

def denial : CompiledRule := ⟨"d", .aws, .deny, .name, .contains "r5"⟩

def kept : Settings Float := { Settings.default with forbidChangeFamily := true }

theorem steps : Relation.ReflTransGen Tightens ([rule], Settings.default) ([denial, rule], kept) := by
  have hfamily : Tightens ([rule], (Settings.default : Settings Float)) ([rule], kept) :=
    .keepFamily nofun nofun
  have hdenial : DeniesMore [rule] [denial, rule] := .deny rfl (.keep rule .nil)
  exact .tail (.single hfamily) (.deny hdenial)

theorem select_default : select [rule] Settings.default (fun _ => none) current requirement catalog =
    [preferred, small] := by
  obtain ⟨ranked, hranked, hmap⟩ := exists_isRanking [rule] Settings.default current requirement comparable
  rw [select_eq_ranking (by decide), ← hmap, IsRanking.unique comparable isRanking hranked]
  rfl

end Preference

theorem select_of_stricter_preference :
    Relation.ReflTransGen Tightens ([Preference.rule], Settings.default)
      ([Preference.denial, Preference.rule], Preference.kept) ∧
    (∀ s ∈ Preference.catalog, Comparable (fun _ => none) s) ∧
    Preference.catalog.length ≤ (Settings.default : Settings Float).maxRecommendedShapes ∧
    select [Preference.denial, Preference.rule] Preference.kept (fun _ => none) Preference.current
      Preference.requirement Preference.catalog = [Preference.small] := by
  have hlimit : Preference.catalog.length ≤ (Settings.default : Settings Float).maxRecommendedShapes := by
    decide
  obtain ⟨hselect, -⟩ := select_of_stricter Preference.steps (fun _ => none) Preference.current
    Preference.requirement Preference.comparable hlimit
  have hpreferred : eligible [Preference.denial, Preference.rule] Preference.kept Preference.current
      Preference.requirement Preference.preferred = false := by decide
  have hsmall : eligible [Preference.denial, Preference.rule] Preference.kept Preference.current
      Preference.requirement Preference.small = true := by decide
  refine ⟨Preference.steps, Preference.comparable, hlimit, hselect.trans ?_⟩
  rw [Preference.select_default, List.filter_cons_of_neg (by simp [hpreferred]),
    List.filter_cons_of_pos hsmall, List.filter_nil]

end FleetSizing.Selection
