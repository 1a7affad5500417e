import FleetSizing.Pattern.Build
import FleetSizing.Proofs.Pattern.Matching

/-! What patterns put together from parts match. Bringing them into their plainest form changes their
matches nowhere. -/
namespace FleetSizing

namespace CodeSet

variable {r : Nat × Nat} {rs : List (Nat × Nat)} {c : Nat}

/-- Some range holds the code point. -/
def Covers (rs : List (Nat × Nat)) (c : Nat) : Prop := ∃ r ∈ rs, r.1 ≤ c ∧ c ≤ r.2

theorem contains_iff_covers {s : CodeSet} : s.contains c ↔ Covers s.ranges c := by
  simp [contains, Covers]

theorem covers_nil : ¬ Covers [] c := by
  rintro ⟨r, hr, -⟩
  cases hr

theorem covers_cons : Covers (r :: rs) c ↔ (r.1 ≤ c ∧ c ≤ r.2) ∨ Covers rs c := by
  simp [Covers]

theorem covers_congr {rs' : List (Nat × Nat)} (h : ∀ r, r ∈ rs ↔ r ∈ rs') : Covers rs c ↔ Covers rs' c := by
  simp only [Covers, h]

/-- Takes the next range in, or goes on from it. -/
def joinStep (acc : List (Nat × Nat) × (Nat × Nat)) (next : Nat × Nat) :
    List (Nat × Nat) × (Nat × Nat) :=
  if next.1 ≤ acc.2.2 + 1 then (acc.1, (acc.2.1, max acc.2.2 next.2)) else (acc.2 :: acc.1, next)

theorem join_cons : join (r :: rs) =
    ((rs.foldl joinStep ([], r)).2 :: (rs.foldl joinStep ([], r)).1).reverse := rfl

theorem covers_foldl_joinStep {done : List (Nat × Nat)} (h : (r :: rs).Pairwise (·.1 ≤ ·.1)) :
    Covers ((rs.foldl joinStep (done, r)).2 :: (rs.foldl joinStep (done, r)).1) c ↔
      Covers done c ∨ Covers (r :: rs) c := by
  induction rs generalizing r done with
  | nil =>
    rw [List.foldl_nil, covers_cons, covers_cons, or_iff_left covers_nil]
    exact or_comm
  | cons next rs ih =>
    rw [List.foldl_cons]
    obtain ⟨hfirst, hrest⟩ := List.pairwise_cons.mp h
    have hle : r.1 ≤ next.1 := hfirst next List.mem_cons_self
    by_cases htouch : next.1 ≤ r.2 + 1
    · have hmerged : ((r.1, max r.2 next.2) :: rs).Pairwise (·.1 ≤ ·.1) :=
        List.pairwise_cons.mpr ⟨fun s hs => hfirst s (List.mem_cons_of_mem _ hs), hrest.of_cons⟩
      have hjoin : joinStep (done, r) next = (done, (r.1, max r.2 next.2)) := if_pos htouch
      have hboth : (r.1 ≤ c ∧ c ≤ max r.2 next.2) ↔ (r.1 ≤ c ∧ c ≤ r.2) ∨ (next.1 ≤ c ∧ c ≤ next.2) := by
        omega
      rw [hjoin, ih hmerged, covers_cons, covers_cons, covers_cons, hboth, or_assoc]
    · have hjoin : joinStep (done, r) next = (r :: done, next) := if_neg htouch
      rw [hjoin, ih hrest, covers_cons, covers_cons (r := r)]
      rw [or_assoc, or_left_comm]

/-- Joining ranges keeps what they cover. -/
theorem contains_ofRanges : (ofRanges rs).contains c ↔ Covers rs c := by
  have hsorted : (rs.mergeSort fun a b => decide (a.1 ≤ b.1)).Pairwise
      (fun a b => decide (a.1 ≤ b.1) = true) := by
    apply List.pairwise_mergeSort
    · intro a b d hab hbd
      simp only [decide_eq_true_eq] at hab hbd ⊢
      omega
    · intro a b
      simp only [Bool.or_eq_true, decide_eq_true_eq]
      omega
  have hcovers : Covers (rs.mergeSort fun a b => decide (a.1 ≤ b.1)) c ↔ Covers rs c :=
    covers_congr fun r => (List.mergeSort_perm _ _).mem_iff
  rw [contains_iff_covers, ofRanges, ← hcovers]
  generalize rs.mergeSort _ = sorted at hsorted
  cases sorted with
  | nil => exact Iff.rfl
  | cons r rest =>
    simp only [decide_eq_true_eq] at hsorted
    have hfold : Covers _ c ↔ Covers [] c ∨ Covers (r :: rest) c := covers_foldl_joinStep hsorted
    rw [join_cons, covers_congr fun _ => List.mem_reverse, hfold, or_iff_right covers_nil]

end CodeSet

namespace Pattern

variable {t : Subject} {p : Pattern} {ps qs : List Pattern} {i j k : Nat}

/-- The patterns match one after the other. -/
def Chain (t : Subject) : List Pattern → Nat → Nat → Prop
  | [], i, k => i = k
  | p :: ps, i, k => ∃ j, Matches t p i j ∧ Chain t ps j k

/-- One of the patterns matches. -/
def OneOf (t : Subject) (ps : List Pattern) (i j : Nat) : Prop := ∃ p ∈ ps, Matches t p i j

theorem chain_singleton : Chain t [p] i k ↔ Matches t p i k := by
  simp [Chain]

theorem chain_append : Chain t (ps ++ qs) i k ↔ ∃ j, Chain t ps i j ∧ Chain t qs j k := by
  induction ps generalizing i with
  | nil => simp [Chain]
  | cons p ps ih =>
    simp only [List.cons_append, Chain, ih]
    constructor
    · rintro ⟨l, hp, j, hps, hqs⟩
      exact ⟨j, ⟨l, hp, hps⟩, hqs⟩
    · rintro ⟨j, ⟨l, hp, hps⟩, hqs⟩
      exact ⟨l, hp, j, hps, hqs⟩

theorem chain_items : Chain t (items p) i k ↔ Matches t p i k := by
  induction p generalizing i k with
  | empty => rw [items, Chain, matches_empty_iff]
  | seq a b _ ihb => simp only [items, Chain, matches_seq_iff, ihb]
  | _ => exact chain_singleton

theorem chain_flatMap_items : Chain t (ps.flatMap items) i k ↔ Chain t ps i k := by
  induction ps generalizing i with
  | nil => exact Iff.rfl
  | cons p ps ih => simp only [List.flatMap_cons, chain_append, chain_items, ih, Chain]

theorem standsAt_append {cs ds : List Char} :
    standsAt t (cs ++ ds) i ↔ standsAt t cs i ∧ standsAt t ds (i + cs.length) := by
  induction cs generalizing i with
  | nil => simp [standsAt]
  | cons c cs ih => simp [standsAt, ih, and_assoc, Nat.add_assoc, Nat.add_comm 1]

theorem matches_text_append {cs ds : List Char} : Matches t (.text (cs ++ ds)) i k ↔
    ∃ j, Matches t (.text cs) i j ∧ Matches t (.text ds) j k := by
  simp only [matches_text_iff, standsAt_append, List.length_append]
  constructor
  · rintro ⟨⟨hcs, hds⟩, rfl⟩
    exact ⟨_, ⟨hcs, rfl⟩, hds, by omega⟩
  · rintro ⟨_, ⟨hcs, rfl⟩, hds, rfl⟩
    exact ⟨⟨hcs, hds⟩, by omega⟩

theorem chain_joinTexts : Chain t (joinTexts ps) i k ↔ Chain t ps i k := by
  fun_induction joinTexts ps generalizing i with
  | case1 => exact Iff.rfl
  | case2 cs rest ds more hjoined ih =>
    simp only [Chain, ← ih, hjoined, matches_text_append]
    constructor
    · rintro ⟨l, ⟨j, hcs, hds⟩, hmore⟩
      exact ⟨j, hcs, l, hds, hmore⟩
    · rintro ⟨j, hcs, l, hds, hmore⟩
      exact ⟨l, ⟨j, hcs, hds⟩, hmore⟩
  | case3 cs rest hother ih => simp only [Chain, ih]
  | case4 p rest hother ih => simp only [Chain, ih]

theorem matches_inOrder_iff : Matches t (inOrder ps) i k ↔ Chain t ps i k := by
  fun_induction inOrder ps generalizing i with
  | case1 => exact matches_empty_iff
  | case2 p => exact chain_singleton.symm
  | case3 p ps hne ih => simp only [matches_seq_iff, Chain, ih]

/-- A sequence matches what its parts match one after the other. -/
theorem matches_sequence_iff : Matches t (sequence ps) i k ↔ Chain t ps i k := by
  rw [sequence, matches_inOrder_iff, chain_joinTexts, chain_flatMap_items]

theorem oneOf_cons : OneOf t (p :: ps) i j ↔ Matches t p i j ∨ OneOf t ps i j := by
  simp [OneOf]

theorem oneOf_map {β : Type} {f : β → Pattern} {xs : List β} :
    OneOf t (xs.map f) i j ↔ ∃ x ∈ xs, Matches t (f x) i j := by
  constructor
  · rintro ⟨q, hq, hmatch⟩
    obtain ⟨x, hx, rfl⟩ := List.mem_map.mp hq
    exact ⟨x, hx, hmatch⟩
  · rintro ⟨x, hx, hmatch⟩
    exact ⟨_, List.mem_map_of_mem hx, hmatch⟩

theorem oneOf_append : OneOf t (ps ++ qs) i j ↔ OneOf t ps i j ∨ OneOf t qs i j := by
  simp [OneOf, or_and_right, exists_or]

theorem oneOf_branches : OneOf t (branches p) i j ↔ Matches t p i j := by
  induction p generalizing i j with
  | alt a b _ ihb => rw [branches, oneOf_cons, ihb, matches_alt_iff]
  | _ => simp [branches, OneOf]

theorem oneOf_flatMap_branches : OneOf t (ps.flatMap branches) i j ↔ OneOf t ps i j := by
  induction ps with
  | nil => exact Iff.rfl
  | cons p ps ih => rw [List.flatMap_cons, oneOf_append, oneOf_branches, ih, oneOf_cons]

theorem matches_anyOf_iff : Matches t (anyOf ps) i j ↔ OneOf t ps i j := by
  fun_induction anyOf ps with
  | case1 => simp [fail, matches_chars_iff, OneOf, CodeSet.empty, CodeSet.contains]
  | case2 p => simp [OneOf]
  | case3 p ps hne ih => rw [matches_alt_iff, ih, oneOf_cons]

/-- What holds of the arguments of a function that never fails holds of its results. -/
theorem exists_of_mapM {β γ : Type} {f : β → Option γ} {P : β → Prop} {Q : γ → Prop} {xs : List β}
    {ys : List γ} (h : xs.mapM f = some ys) (hPQ : ∀ x y, f x = some y → (P x ↔ Q y)) :
    (∃ x ∈ xs, P x) ↔ ∃ y ∈ ys, Q y := by
  induction xs generalizing ys with
  | nil =>
    cases h
    simp
  | cons x xs ih =>
    simp only [List.mapM_cons, Option.bind_eq_bind, Option.bind_eq_some_iff, Option.pure_def,
      Option.some.injEq] at h
    obtain ⟨y, hy, rest, hrest, rfl⟩ := h
    simp only [List.mem_cons, exists_eq_or_imp, hPQ x y hy, ih hrest]

theorem matches_single_iff {c : Char} :
    Matches t (.chars (.single c.toNat)) i j ↔ Matches t (.text [c]) i j := by
  rw [matches_chars_iff, matches_text_iff]
  refine and_congr_left fun _ => ?_
  have hsingle : ∀ d : Char, (CodeSet.single c.toNat).contains d.toNat ↔ d = c := by
    intro d
    rw [← Char.toNat_inj]
    simp only [CodeSet.single, CodeSet.range, CodeSet.contains, List.any_cons, List.any_nil,
      Bool.or_false, Bool.and_eq_true, decide_eq_true_eq]
    omega
  simp only [hsingle, exists_eq_right, standsAt, Bool.and_true, beq_iff_eq]

theorem matches_of_character? {s : CodeSet} (h : character? p = some s) :
    Matches t p i j ↔ Matches t (.chars s) i j := by
  unfold character? at h
  split at h
  · obtain rfl := Option.some.inj h
    exact matches_single_iff.symm
  · cases h

theorem matches_of_set? {s : CodeSet} (h : set? p = some s) :
    Matches t p i j ↔ Matches t (.chars s) i j := by
  unfold set? at h
  split at h
  · obtain rfl := Option.some.inj h
    exact Iff.rfl
  · cases h

theorem matches_unionAll_iff {ss : List CodeSet} :
    Matches t (.chars (unionAll ss)) i j ↔ ∃ s ∈ ss, Matches t (.chars s) i j := by
  have hcovers : ∀ c : Char, (unionAll ss).contains c.toNat ↔ ∃ s ∈ ss, s.contains c.toNat := by
    intro c
    rw [unionAll, CodeSet.contains_ofRanges]
    simp only [CodeSet.contains_iff_covers, CodeSet.Covers, List.mem_flatMap]
    constructor
    · rintro ⟨r, ⟨s, hs, hr⟩, hc⟩
      exact ⟨s, hs, r, hr, hc⟩
    · rintro ⟨s, hs, r, hr, hc⟩
      exact ⟨r, ⟨s, hs, hr⟩, hc⟩
  simp only [matches_chars_iff, hcovers]
  constructor
  · rintro ⟨⟨c, hc, s, hs, hset⟩, hj⟩
    exact ⟨s, hs, ⟨c, hc, hset⟩, hj⟩
  · rintro ⟨s, hs, ⟨c, hc, hset⟩, hj⟩
    exact ⟨⟨c, hc, s, hs, hset⟩, hj⟩

theorem matches_ofSet_iff {s : CodeSet} : Matches t (ofSet s) i j ↔ Matches t (.chars s) i j := by
  unfold ofSet
  split
  · rename_i lo hi hranges
    split
    · rename_i hone
      obtain ⟨rfl, hvalid⟩ := hone
      have hcode : (Char.ofNat lo).toNat = lo := by
        rw [Char.ofNat, dif_pos hvalid]
        rfl
      have hset : s = .single (Char.ofNat lo).toNat := by
        cases s
        rw [hcode]
        exact congrArg CodeSet.mk hranges
      rw [hset, matches_single_iff]
    · exact Iff.rfl
  · exact Iff.rfl

theorem commonPrefix_prefix (ps qs : List Pattern) : commonPrefix ps qs <+: ps ∧ commonPrefix ps qs <+: qs := by
  fun_induction commonPrefix ps qs with
  | case1 as a bs ih => exact ⟨(List.prefix_cons_inj a).mpr ih.1, (List.prefix_cons_inj a).mpr ih.2⟩
  | case2 a as b bs hne => simp
  | case3 as bs h => simp

theorem foldl_commonPrefix_prefix {first : List Pattern} {rest : List (List Pattern)} :
    ∀ parts ∈ first :: rest, rest.foldl commonPrefix first <+: parts := by
  induction rest generalizing first with
  | nil => simp
  | cons next rest ih =>
    have hboth := commonPrefix_prefix first next
    have hshared : rest.foldl commonPrefix (commonPrefix first next) <+: commonPrefix first next :=
      ih _ List.mem_cons_self
    intro parts hparts
    rw [List.foldl_cons]
    rcases List.mem_cons.mp hparts with rfl | hrest
    · exact hshared.trans hboth.1
    · rcases List.mem_cons.mp hrest with rfl | hlater
      · exact hshared.trans hboth.2
      · exact ih parts (List.mem_cons_of_mem _ hlater)

theorem matches_of_sequenceItems? {parts : List Pattern} (h : sequenceItems? p = some parts) :
    Matches t p i j ↔ Chain t parts i j := by
  unfold sequenceItems? at h
  split at h
  · obtain rfl := Option.some.inj h
    simp only [matches_seq_iff, Chain, chain_items]
  · cases h

/-- What all branches start with can be matched before the choice is made. -/
theorem oneOf_lifted {shared : List Pattern} (h : lifted? ps = some (shared, qs)) :
    OneOf t ps i k ↔ ∃ j, Chain t shared i j ∧ OneOf t qs j k := by
  obtain ⟨lists, hlists, h⟩ := Option.bind_eq_some_iff.mp h
  have hparts : OneOf t ps i k ↔ ∃ parts ∈ lists, Chain t parts i k :=
    exists_of_mapM hlists fun p parts hp => matches_of_sequenceItems? hp
  rw [hparts]
  cases lists with
  | nil => cases h
  | cons first rest =>
    simp only [Option.ite_none_left_eq_some, Option.some.injEq, Prod.mk.injEq] at h
    obtain ⟨-, rfl, rfl⟩ := h
    generalize hshared : rest.foldl commonPrefix first = shared
    have hprefix : ∀ parts ∈ first :: rest, shared ++ parts.drop shared.length = parts := by
      intro parts hparts
      have hshared' := foldl_commonPrefix_prefix parts hparts
      rw [hshared] at hshared'
      exact List.prefix_iff_eq_append.mp hshared'
    simp only [oneOf_map, matches_sequence_iff]
    constructor
    · rintro ⟨parts, hmem, hchain⟩
      rw [← hprefix parts hmem, chain_append] at hchain
      obtain ⟨j, hfirst, hrest⟩ := hchain
      exact ⟨j, hfirst, parts, hmem, hrest⟩
    · rintro ⟨j, hfirst, parts, hmem, hrest⟩
      refine ⟨parts, hmem, ?_⟩
      rw [← hprefix parts hmem, chain_append]
      exact ⟨j, hfirst, hrest⟩

theorem matches_choiceOf_iff {fuel : Nat} : Matches t (choiceOf fuel ps) i j ↔ OneOf t ps i j := by
  fun_induction choiceOf fuel ps generalizing i j with
  | case1 fuel ps p hlone => rw [← oneOf_flatMap_branches, hlone, oneOf_cons, or_iff_left (by simp [OneOf])]
  | case2 fuel ps ss hmany hsets =>
    rw [← oneOf_flatMap_branches, matches_ofSet_iff, matches_unionAll_iff]
    cases hchars : (ps.flatMap branches).mapM character? with
    | some ss' =>
      rw [hchars] at hsets
      obtain rfl := Option.some.inj hsets
      exact (exists_of_mapM hchars fun _ _ h => matches_of_character? h).symm
    | none =>
      rw [hchars] at hsets
      exact (exists_of_mapM hsets fun _ _ h => matches_of_set? h).symm
  | case3 ps fuel shared rest hmany hsets hlifted ih =>
    rw [← oneOf_flatMap_branches, oneOf_lifted hlifted, matches_sequence_iff, chain_append]
    simp only [chain_singleton, ih]
  | case4 fuel ps hmany hsets hplain => rw [← oneOf_flatMap_branches, matches_anyOf_iff]

/-- A choice matches what one of its branches does. -/
theorem matches_choice_iff : Matches t (choice ps) i j ↔ OneOf t ps i j := matches_choiceOf_iff

end Pattern

end FleetSizing
