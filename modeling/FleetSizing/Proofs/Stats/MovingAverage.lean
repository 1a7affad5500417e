import FleetSizing.Proofs.Scalar.Rational
import FleetSizing.Stats

/-! A moving average is told by the values in its window alone, although it is computed from a sum that runs over
all values. -/
namespace FleetSizing.Stats

section

variable {α : Type} [Scalar α]

theorem length_runningMeans (window seen : Nat) (sum : α) (leaving xs : List α) :
    (runningMeans window seen sum leaving xs).length = xs.length := by
  induction xs generalizing seen sum leaving with
  | nil => rfl
  | cons x xs ih => rw [runningMeans, List.length_cons, List.length_cons, ih]

theorem length_movingAverage (window : Nat) (xs : List α) :
    (movingAverage window xs).length = xs.length :=
  length_runningMeans ..

end

section

variable {β : Type} {xs ys : List β} {x : β} {window n i : Nat}

/-- Of the first `n` values, the last ones that a window holds. -/
def inWindow (window n : Nat) (xs : List β) : List β := (xs.take n).drop (n - window)

theorem length_inWindow (h : n ≤ xs.length) : (inWindow window n xs).length = min n window := by
  rw [inWindow, List.length_drop, List.length_take, Nat.min_eq_left h]
  omega

/-- A value that enters a window joins those in it before, the first of which then leaves if the window is full. -/
theorem inWindow_append (hx : xs[n]? = some x) :
    inWindow window n xs ++ [x] = (xs.take (n + 1)).drop (n - window) := by
  have hn : n < xs.length := (List.getElem?_eq_some_iff.mp hx).1
  rw [List.take_add_one, hx, Option.toList_some, inWindow, List.drop_append_of_le_length]
  rw [List.length_take]
  omega

theorem inWindow_append_of_full (hx : xs[n]? = some x) (hfull : window ≤ n) :
    ∃ y, xs[n - window]? = some y ∧ inWindow window n xs ++ [x] = y :: inWindow window (n + 1) xs := by
  have hn : n < xs.length := (List.getElem?_eq_some_iff.mp hx).1
  have hfirst : n - window < (xs.take (n + 1)).length := by
    rw [List.length_take]
    omega
  refine ⟨_, List.getElem?_eq_getElem (by omega), ?_⟩
  rw [inWindow_append hx, List.drop_eq_getElem_cons hfirst, List.getElem_take, inWindow,
    Nat.sub_add_comm hfull]

theorem inWindow_append_of_room (hx : xs[n]? = some x) (hroom : n < window) :
    inWindow window n xs ++ [x] = inWindow window (n + 1) xs := by
  rw [inWindow_append hx, inWindow, Nat.sub_eq_zero_of_le hroom.le, Nat.sub_eq_zero_of_le hroom]

/-- Lists that agree at the places of a window have the same values in it. -/
theorem inWindow_congr (h : ∀ j < n, n ≤ j + window → ys[j]? = xs[j]?) :
    inWindow window n ys = inWindow window n xs := by
  ext1 k
  simp only [inWindow, List.getElem?_drop, List.getElem?_take]
  split
  · exact h _ (by omega) (by omega)
  · rfl

end

variable {zs : List Rat} {window seen : Nat} {sum x : Rat} {leaving : List Rat}

/-- What the sum and the values still to leave it are once some values are seen. -/
structure Running (window : Nat) (zs : List Rat) (seen : Nat) (sum : Rat) (leaving : List Rat) : Prop where
  sum_eq : sum = Scalar.sum (inWindow window seen zs)
  leaving_eq : leaving = zs.drop (seen - window)

theorem running_start (window : Nat) (zs : List Rat) : Running window zs 0 ((0 : Nat) : Rat) zs where
  sum_eq := by
    rw [inWindow, List.take_zero, List.drop_nil]
    rfl
  leaving_eq := by rw [Nat.zero_sub, List.drop_zero]

/-- The next value enters the sum, and the one that the window moves past leaves it. -/
theorem Running.step (h : Running window zs seen sum leaving) (hx : zs[seen]? = some x) :
    (window ≤ seen → Running window zs (seen + 1) (sum + x - leaving.headD ((0 : Nat) : Rat)) leaving.tail) ∧
      (seen < window → Running window zs (seen + 1) (sum + x) leaving) := by
  have hentered : sum + x = Scalar.sum (inWindow window seen zs ++ [x]) := by
    rw [Scalar.sum_append_singleton, h.sum_eq]
  constructor
  · intro hfull
    obtain ⟨y, hy, hwindow⟩ := inWindow_append_of_full hx hfull
    have hhead : leaving.headD ((0 : Nat) : Rat) = y := by
      rw [h.leaving_eq, List.headD_eq_head?_getD, List.head?_drop, hy, Option.getD_some]
    refine ⟨?_, ?_⟩
    · rw [hentered, hwindow, hhead, Scalar.sum_cons, add_sub_cancel_left]
    · rw [h.leaving_eq, List.tail_drop, Nat.sub_add_comm hfull]
  · intro hroom
    refine ⟨?_, ?_⟩
    · rw [hentered, inWindow_append_of_room hx hroom]
    · rw [h.leaving_eq, Nat.sub_eq_zero_of_le hroom.le, Nat.sub_eq_zero_of_le hroom]

theorem mean_inWindow (hwindow : 0 < window) (hseen : seen < zs.length) :
    mean (inWindow window (seen + 1) zs) =
      Scalar.sum (inWindow window (seen + 1) zs) / ((min (seen + 1) window : Nat) : Rat) := by
  have hlength : (inWindow window (seen + 1) zs).length = min (seen + 1) window := length_inWindow hseen
  have hne : (inWindow window (seen + 1) zs).isEmpty = false := by
    rw [List.isEmpty_eq_false_iff, ← List.length_pos_iff, hlength]
    omega
  rw [mean, hne, hlength]
  rfl

/-- Once some values are seen, the means that follow are those of the windows that end at each later value. -/
theorem runningMeans_eq (hwindow : 0 < window) (h : Running window zs seen sum leaving) :
    runningMeans window seen sum leaving (zs.drop seen) =
      (List.range' seen (zs.length - seen)).map fun i => mean (inWindow window (i + 1) zs) := by
  generalize hxs : zs.drop seen = xs
  induction xs generalizing seen sum leaving with
  | nil =>
    rw [List.drop_eq_nil_iff] at hxs
    rw [Nat.sub_eq_zero_of_le hxs]
    rfl
  | cons x xs ih =>
    have hx : zs[seen]? = some x := by rw [← List.head?_drop, hxs, List.head?_cons]
    have hseen : seen < zs.length := (List.getElem?_eq_some_iff.mp hx).1
    have hrest : zs.drop (seen + 1) = xs := by rw [← List.tail_drop, hxs, List.tail_cons]
    have hcount : zs.length - seen = zs.length - (seen + 1) + 1 := by omega
    obtain ⟨hfull, hroom⟩ := h.step hx
    rw [hcount, List.range'_succ, List.map_cons, runningMeans, mean_inWindow hwindow hseen]
    by_cases hle : window ≤ seen
    · simp only [if_pos hle]
      rw [ih (hfull hle) hrest, ← (hfull hle).sum_eq]
    · simp only [if_neg hle]
      rw [ih (hroom (not_le.mp hle)) hrest, ← (hroom (not_le.mp hle)).sum_eq]

theorem getElem?_movingAverage (window : Nat) (zs : List Rat) {i : Nat} (hi : i < zs.length) :
    (movingAverage window zs)[i]? = some (mean (inWindow (max window 1) (i + 1) zs)) := by
  have hmeans := runningMeans_eq (show 0 < max window 1 by omega) (running_start (max window 1) zs)
  rw [List.drop_zero] at hmeans
  rw [movingAverage, hmeans, List.getElem?_map, List.getElem?_range' (by omega), Option.map_some]
  simp

/-- A moving average has an entry for each value: the mean of the window that ends there, which holds as many values
as it is wide, or all of them so far. Lists that agree in a window have the same entry for it. -/
theorem movingAverage_windows (window : Nat) (xs : List Rat) :
    (movingAverage window xs).length = xs.length ∧
    (∀ i < xs.length, (inWindow (max window 1) (i + 1) xs).length = min (i + 1) (max window 1) ∧
      (movingAverage window xs)[i]? = some (mean (inWindow (max window 1) (i + 1) xs))) ∧
    ∀ (ys : List Rat) (i : Nat), (∀ j ≤ i, i < j + max window 1 → ys[j]? = xs[j]?) →
      (movingAverage window ys)[i]? = (movingAverage window xs)[i]? := by
  refine ⟨length_movingAverage window xs,
    fun i hi => ⟨length_inWindow hi, getElem?_movingAverage window xs hi⟩, fun ys i h => ?_⟩
  have hplace : ys[i]? = xs[i]? := h i le_rfl (by omega)
  by_cases hi : i < xs.length
  · have hi' : i < ys.length := by
      rw [List.getElem?_eq_getElem hi] at hplace
      exact (List.getElem?_eq_some_iff.mp hplace).1
    rw [getElem?_movingAverage window ys hi', getElem?_movingAverage window xs hi,
      inWindow_congr fun j hj hj' => h j (by omega) (by omega)]
  · have hi' : ys.length ≤ i := by
      rw [List.getElem?_eq_none (not_lt.mp hi)] at hplace
      exact List.getElem?_eq_none_iff.mp hplace
    rw [List.getElem?_eq_none, List.getElem?_eq_none]
    · rw [length_movingAverage]
      exact not_lt.mp hi
    · rwa [length_movingAverage]

/-! Two series that only differ where a window of three has moved on. -/
namespace Smoothed

def loads : List Rat := [3, 6, 9, 12]

def spiked : List Rat := [100, 6, 9, 12]

end Smoothed

theorem movingAverage_windows_spiked :
    (∀ j ≤ 3, 3 < j + max 3 1 → Smoothed.spiked[j]? = Smoothed.loads[j]?) ∧
      (movingAverage 3 Smoothed.spiked)[3]? = (movingAverage 3 Smoothed.loads)[3]? ∧
      (movingAverage 3 Smoothed.loads)[3]? = some (mean [6, 9, 12]) := by
  have hagree : ∀ j ≤ 3, 3 < j + max 3 1 → Smoothed.spiked[j]? = Smoothed.loads[j]? := by decide
  obtain ⟨-, hmeans, hwindow⟩ := movingAverage_windows 3 Smoothed.loads
  exact ⟨hagree, hwindow Smoothed.spiked 3 hagree, (hmeans 3 (by decide)).2⟩

end FleetSizing.Stats
