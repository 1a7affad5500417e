import Mathlib.Algebra.Order.Ring.Nat
import Mathlib.Data.Nat.SuccPred

/-! Values with the places they had. A stable sort puts them in the order of their keys and then of their places. -/
namespace FleetSizing.Placed

variable {β κ ι : Type}

theorem pairwise_zipIdx (xs : List β) : xs.zipIdx.Pairwise fun p q => p.2 < q.2 := by
  rw [← List.pairwise_map (f := Prod.snd), List.zipIdx_map_snd]
  exact List.pairwise_lt_range'

section

variable [LinearOrder κ] [LT ι] (key : β → κ) (earlier : β → β → Bool) {xs : List (β × ι)}

/-- A stable sort of labelled values, as long as their labels increase: equal keys keep that order. -/
theorem exists_sorted (hlabels : xs.Pairwise fun p q => p.2 < q.2)
    (hearlier : ∀ p ∈ xs, ∀ q ∈ xs, (earlier p.1 q.1 ↔ key p.1 < key q.1)) :
    ∃ sorted : List (β × ι), sorted.Perm xs ∧
      sorted.Pairwise (fun p q => key p.1 < key q.1 ∨ key p.1 = key q.1 ∧ p.2 < q.2) ∧
      sorted.map (·.1) = (xs.map (·.1)).mergeSort fun a b => !earlier b a := by
  let le : β × ι → β × ι → Bool := fun p q => decide (key p.1 ≤ key q.1)
  have hle : ∀ p ∈ xs, ∀ q ∈ xs, le p q = !earlier q.1 p.1 := by
    intro p hp q hq
    rw [Bool.eq_iff_iff, decide_eq_true_iff, Bool.not_eq_true', ← Bool.not_eq_true,
      hearlier q hq p hp, not_lt]
  have htrans : ∀ p q r : β × ι, le p q → le q r → le p r := by
    intro p q r hpq hqr
    rw [decide_eq_true_iff] at hpq hqr ⊢
    exact hpq.trans hqr
  have htotal : ∀ p q : β × ι, (le p q || le q p) = true := by
    intro p q
    rw [Bool.or_eq_true, decide_eq_true_iff, decide_eq_true_iff]
    exact le_total _ _
  -- Where keys are equal the sort compares positions, and labels increase with these.
  have hplaced : (xs.zipIdx.mergeSort (List.zipIdxLE le)).map (·.1) = xs.mergeSort le :=
    List.mergeSort_zipIdx
  refine ⟨xs.mergeSort le, List.mergeSort_perm _ _, ?_, List.map_mergeSort hle⟩
  have hdistinct : (xs.zipIdx.mergeSort (List.zipIdxLE le)).Pairwise fun p q => p.2 ≠ q.2 := by
    rw [← List.pairwise_map (f := Prod.snd),
      ((List.mergeSort_perm xs.zipIdx (List.zipIdxLE le)).map Prod.snd).pairwise_iff Ne.symm,
      List.zipIdx_map_snd]
    exact List.nodup_range'
  have hsorted := List.pairwise_mergeSort (List.zipIdxLE_trans htrans) (List.zipIdxLE_total htotal)
    xs.zipIdx
  rw [← hplaced, List.pairwise_map]
  refine (hsorted.and hdistinct).imp_of_mem ?_
  rintro ⟨p, i⟩ ⟨q, j⟩ hp hq ⟨hle', hne⟩
  simp only [List.mem_mergeSort, List.mem_zipIdx_iff_getElem?] at hp hq
  obtain ⟨hi, rfl⟩ := List.getElem?_eq_some_iff.mp hp
  obtain ⟨hj, rfl⟩ := List.getElem?_eq_some_iff.mp hq
  simp only [List.zipIdxLE, le, decide_eq_true_eq] at hle'
  split at hle'
  · rename_i hkey
    rcases hkey.lt_or_eq with hlt | heq
    · exact Or.inl hlt
    · rw [if_pos heq.ge, decide_eq_true_eq] at hle'
      exact Or.inr ⟨heq, List.pairwise_iff_getElem.mp hlabels i j hi hj (hle'.lt_of_ne hne)⟩
  · cases hle'

end

end FleetSizing.Placed
