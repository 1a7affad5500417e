import FleetSizing.Proofs.Stats.Bounds
import Mathlib.Data.List.Sort

/-! The value at a place of a sorted list, told by how many values lie within a bound. Larger readings thus have
larger values at every place, and larger percentiles. -/
namespace FleetSizing.Stats

section

variable {β : Type} {P : β → Bool} {xs ys : List β} {x : β} {i : Nat}

/-- Where the values that satisfy a bound come first, the value at a place is one of them if they reach it. -/
theorem sat_iff_lt_countP (hfirst : xs.Pairwise fun a b => P b → P a) (hx : xs[i]? = some x) :
    P x ↔ i < xs.countP P := by
  induction xs generalizing i with
  | nil => cases hx
  | cons y ys ih =>
    obtain ⟨hy, hys⟩ := List.pairwise_cons.mp hfirst
    by_cases hP : P y
    · cases i with
      | zero =>
        obtain rfl : y = x := by simpa using hx
        simp [hP]
      | succ i =>
        rw [ih hys (by simpa using hx), List.countP_cons_of_pos hP]
        omega
    · have hnone : ∀ z ∈ y :: ys, ¬ P z := by
        intro z hz hPz
        rcases List.mem_cons.mp hz with rfl | hz
        · exact hP hPz
        · exact hP (hy z hz hPz)
      rw [List.countP_eq_zero.mpr hnone]
      simpa using hnone x (List.mem_of_getElem? hx)

theorem countP_le_of_forall₂ (h : List.Forall₂ (fun x y => P y → P x) xs ys) : ys.countP P ≤ xs.countP P := by
  induction h with
  | nil => exact Nat.le_refl _
  | @cons x y xs ys hxy _ ih =>
    by_cases hy : P y
    · rw [List.countP_cons_of_pos hy, List.countP_cons_of_pos (hxy hy)]
      omega
    · rw [List.countP_cons_of_neg hy]
      exact ih.trans (List.sublist_cons_self x xs).countP_le

end

section

variable {β : Type} [LinearOrder β] {xs zs : List β} {x v : β} {i : Nat}

theorem le_iff_lt_countP (hsorted : zs.Pairwise (· ≤ ·)) (hperm : zs.Perm xs) (hx : zs[i]? = some x) :
    x ≤ v ↔ i < xs.countP (· ≤ v) := by
  have hfirst : zs.Pairwise fun a b => decide (b ≤ v) → decide (a ≤ v) :=
    hsorted.imp fun hab hb => decide_eq_true (le_trans hab (of_decide_eq_true hb))
  rw [← hperm.countP_eq, ← sat_iff_lt_countP (P := fun y => decide (y ≤ v)) hfirst hx, decide_eq_true_eq]

theorem lt_iff_lt_countP (hsorted : zs.Pairwise (· ≤ ·)) (hperm : zs.Perm xs) (hx : zs[i]? = some x) :
    x < v ↔ i < xs.countP (· < v) := by
  have hfirst : zs.Pairwise fun a b => decide (b < v) → decide (a < v) :=
    hsorted.imp fun hab hb => decide_eq_true (lt_of_le_of_lt hab (of_decide_eq_true hb))
  rw [← hperm.countP_eq, ← sat_iff_lt_countP (P := fun y => decide (y < v)) hfirst hx, decide_eq_true_eq]

end

/-- At most half of the values lie below it, and more than half lie at it or below. -/
def IsUpperMedian (xs : List Int) (m : Int) : Prop :=
  xs.countP (· < m) ≤ xs.length / 2 ∧ xs.length / 2 < xs.countP (· ≤ m)

instance (xs : List Int) (m : Int) : Decidable (IsUpperMedian xs m) := inferInstanceAs (Decidable (_ ∧ _))

theorem median?_eq_some_iff {xs : List Int} {m : Int} : median? xs = some m ↔ IsUpperMedian xs m := by
  have hsorted : (xs.mergeSort (· ≤ ·)).Pairwise (· ≤ ·) := List.pairwise_mergeSort' (· ≤ ·) xs
  have hperm := List.mergeSort_perm xs (· ≤ ·)
  constructor
  · intro hm
    exact ⟨not_lt.mp fun hlt => lt_irrefl m ((lt_iff_lt_countP hsorted hperm hm).mpr hlt),
      (le_iff_lt_countP hsorted hperm hm).mp le_rfl⟩
  · rintro ⟨hfew, hmany⟩
    have hplace : xs.length / 2 < (xs.mergeSort (· ≤ ·)).length := by
      rw [List.length_mergeSort]
      exact lt_of_lt_of_le hmany List.countP_le_length
    obtain ⟨x, hx⟩ : ∃ x, median? xs = some x := ⟨_, List.getElem?_eq_getElem hplace⟩
    have hle : x ≤ m := (le_iff_lt_countP hsorted hperm hx).mpr hmany
    have hge : ¬ x < m := fun hlt => absurd ((lt_iff_lt_countP hsorted hperm hx).mp hlt) (not_lt.mpr hfew)
    rw [hx, le_antisymm hle (not_lt.mp hge)]

theorem IsUpperMedian.mem {xs : List Int} {m : Int} (h : IsUpperMedian xs m) : m ∈ xs :=
  List.mem_mergeSort.mp (List.mem_of_getElem? (median?_eq_some_iff.mpr h))

variable {xs ys : List Rat}

theorem pairwise_sorted (xs : List Rat) : (sorted xs).Pairwise (· ≤ ·) := by
  simp only [sorted, not_lt]
  exact List.pairwise_mergeSort' (· ≤ ·) xs

/-- Sorting moves readings away from their positions, but the larger ones stay larger at every place: at most
the value that `ys` has there are at least as many readings of `xs` as of `ys`. -/
theorem sorted_mono (h : List.Forall₂ (· ≤ ·) xs ys) : List.Forall₂ (· ≤ ·) (sorted xs) (sorted ys) := by
  rw [List.forall₂_iff_get]
  refine ⟨by rw [length_sorted, length_sorted, h.length_eq], fun i hi hi' => ?_⟩
  generalize hv : (sorted ys).get ⟨i, hi'⟩ = v
  have hreached : i < ys.countP (· ≤ v) := by
    refine (le_iff_lt_countP (pairwise_sorted ys) (List.mergeSort_perm ys _) ?_).mp hv.le
    exact List.getElem?_eq_getElem hi'
  have hcount : ys.countP (· ≤ v) ≤ xs.countP (· ≤ v) :=
    countP_le_of_forall₂ (h.imp fun {x y} hxy hy => decide_eq_true (le_trans hxy (of_decide_eq_true hy)))
  refine (le_iff_lt_countP (pairwise_sorted xs) (List.mergeSort_perm xs _) ?_).mpr
    (lt_of_lt_of_le hreached hcount)
  exact List.getElem?_eq_getElem hi

theorem getD_mono (h : List.Forall₂ (· ≤ ·) xs ys) (i : Nat) :
    xs.toArray.getD i ((0 : Nat) : Rat) ≤ ys.toArray.getD i ((0 : Nat) : Rat) := by
  rw [Array.getD_eq_getD_getElem?, Array.getD_eq_getD_getElem?, List.getElem?_toArray, List.getElem?_toArray]
  induction h generalizing i with
  | nil => exact le_rfl
  | cons hxy _ ih =>
    cases i with
    | zero => simpa using hxy
    | succ i => simpa using ih i

theorem percentileOfSorted_mono (h : List.Forall₂ (· ≤ ·) xs ys) (p : Rat) :
    percentileOfSorted xs.toArray p ≤ percentileOfSorted ys.toArray p := by
  have hsize : ys.toArray.size = xs.toArray.size := h.length_eq.symm
  rcases Nat.eq_zero_or_pos xs.toArray.size with hempty | hne
  · rw [Array.eq_empty_of_size_eq_zero hempty, Array.eq_empty_of_size_eq_zero (hsize.trans hempty)]
  · obtain ⟨hfrom, hto⟩ := lowerRank_mem xs.toArray.size p
    rw [percentileOfSorted_eq hne, percentileOfSorted_eq (hsize ▸ hne), hsize]
    exact mix_mono (getD_mono h _) (getD_mono h _) ⟨by linarith, by linarith⟩

theorem ladder_mono (h : List.Forall₂ (· ≤ ·) xs ys) :
    List.Forall₂ (· ≤ ·) (ladder xs.toArray) (ladder ys.toArray) := by
  rw [ladder, ladder, List.forall₂_map_left_iff, List.forall₂_map_right_iff, List.forall₂_same]
  exact fun p _ => percentileOfSorted_mono h p

end FleetSizing.Stats
