import FleetSizing.Proofs.Scalar.Rational
import FleetSizing.Stats
import Mathlib.Algebra.Order.Field.Basic
import Mathlib.Algebra.Order.Field.Rat
import Mathlib.Data.Finset.Max
import Mathlib.Tactic.Linarith
import Mathlib.Tactic.Ring

/-! Statistics of exact readings lie between the bounds of the readings. -/
namespace FleetSizing

namespace Stats

variable {xs : List Rat} {lo hi p : Rat} {n : Nat}

/-- The least and the greatest of some values. -/
theorem exists_bounds (hne : xs ≠ []) : ∃ lo ∈ xs, ∃ hi ∈ xs, ∀ x ∈ xs, lo ≤ x ∧ x ≤ hi := by
  have hnonempty : xs.toFinset.Nonempty := List.toFinset_nonempty_iff xs |>.mpr hne
  obtain ⟨lo, hlo, hleast⟩ := xs.toFinset.exists_min_image id hnonempty
  obtain ⟨hi, hhi, hmost⟩ := xs.toFinset.exists_max_image id hnonempty
  refine ⟨lo, List.mem_toFinset.mp hlo, hi, List.mem_toFinset.mp hhi, fun x hx => ?_⟩
  exact ⟨hleast x (List.mem_toFinset.mpr hx), hmost x (List.mem_toFinset.mpr hx)⟩

theorem mean_mem (hne : xs ≠ []) (h : ∀ x ∈ xs, lo ≤ x ∧ x ≤ hi) : lo ≤ mean xs ∧ mean xs ≤ hi := by
  obtain ⟨hlo, hhi⟩ := Scalar.sum_mem h
  have hpos : (0 : Rat) < (xs.length : Rat) := Rat.natCast_pos.mpr (List.length_pos_iff.mpr hne)
  rw [mean, if_neg (by simpa using hne)]
  exact ⟨(le_div_iff₀ hpos).mpr hlo, (div_le_iff₀ hpos).mpr hhi⟩

theorem median?_replicate (n : Nat) (x : Int) : median? (List.replicate (n + 1) x) = some x := by
  have hsorted : (List.replicate (n + 1) x).mergeSort (· ≤ ·) = List.replicate (n + 1) x :=
    List.mergeSort_of_pairwise (by simp [List.pairwise_replicate])
  have hmiddle : (n + 1) / 2 < n + 1 := by omega
  rw [median?, hsorted, List.getElem?_replicate, List.length_replicate, if_pos hmiddle]

theorem mem_sorted {x : Rat} : x ∈ sorted xs ↔ x ∈ xs := List.mem_mergeSort

theorem length_sorted (xs : List Rat) : (sorted xs).length = xs.length := List.length_mergeSort _

/-- A rank is a position among the sorted values. -/
theorem rank_mem (n : Nat) (p : Rat) : 0 ≤ rank n p ∧ rank n p ≤ ((n - 1 : Nat) : Rat) := by
  obtain ⟨hlo, hhi⟩ := Scalar.clamp_mem (x := p) (show ((0 : Nat) : Rat) ≤ ((100 : Nat) : Rat) by decide)
  have hlast : (0 : Rat) ≤ ((n - 1 : Nat) : Rat) := Rat.natCast_nonneg
  have hshare : 0 ≤ Scalar.clamp ((0 : Nat) : Rat) ((100 : Nat) : Rat) p / ((100 : Nat) : Rat) ∧
      Scalar.clamp ((0 : Nat) : Rat) ((100 : Nat) : Rat) p / ((100 : Nat) : Rat) ≤ 1 :=
    ⟨div_nonneg hlo (by decide), (div_le_one (by decide)).mpr hhi⟩
  exact ⟨mul_nonneg hshare.1 hlast, mul_le_of_le_one_left hlast hshare.2⟩

/-- The whole position at or before a rank, less than one away. -/
theorem lowerRank_mem (n : Nat) (p : Rat) :
    (lowerRank n p : Rat) ≤ rank n p ∧ rank n p < (lowerRank n p : Rat) + 1 := by
  have hnonneg : 0 ≤ (rank n p).floor := Rat.le_floor_iff.mpr (rank_mem n p).1
  have hcast : (lowerRank n p : Rat) = ((rank n p).floor : Rat) := by
    have hint : ((lowerRank n p : Nat) : Int) = (rank n p).floor := Int.toNat_of_nonneg hnonneg
    rw [← hint]
    rfl
  have hnext := Rat.lt_floor_add_one (rank n p)
  rw [hcast]
  push_cast at hnext
  exact ⟨Rat.floor_le _, hnext⟩

theorem lowerRank_le (n : Nat) (p : Rat) : lowerRank n p ≤ n - 1 :=
  Rat.natCast_le_natCast.mp (le_trans (lowerRank_mem n p).1 (rank_mem n p).2)

theorem upperRank_le (n : Nat) (p : Rat) : upperRank n p ≤ n - 1 := by
  unfold upperRank
  simp only
  split
  · rename_i hlt
    exact Rat.natCast_lt_natCast.mp (lt_of_lt_of_le hlt (rank_mem n p).2)
  · exact lowerRank_le n p

/-- A value at a share of the way between two others grows with both. -/
theorem mix_mono {a a' b b' t : Rat} (ha : a ≤ a') (hb : b ≤ b') (ht : 0 ≤ t ∧ t ≤ 1) :
    a + (b - a) * t ≤ a' + (b' - a') * t := by
  have hrest : 0 ≤ 1 - t := by linarith [ht.2]
  calc a + (b - a) * t = (1 - t) * a + t * b := by ring
    _ ≤ (1 - t) * a' + t * b' :=
      add_le_add (mul_le_mul_of_nonneg_left ha hrest) (mul_le_mul_of_nonneg_left hb ht.1)
    _ = a' + (b' - a') * t := by ring

/-- A value at a share of the way between two others lies within their bounds. -/
theorem between {a b t : Rat} (ha : lo ≤ a ∧ a ≤ hi) (hb : lo ≤ b ∧ b ≤ hi) (ht : 0 ≤ t ∧ t ≤ 1) :
    lo ≤ a + (b - a) * t ∧ a + (b - a) * t ≤ hi := by
  constructor
  · calc lo = lo + (lo - lo) * t := by ring
      _ ≤ a + (b - a) * t := mix_mono ha.1 hb.1 ht
  · calc a + (b - a) * t ≤ hi + (hi - hi) * t := mix_mono ha.2 hb.2 ht
      _ = hi := by ring

/-- All percentiles of some values interpolate, also those of one value. -/
theorem percentileOfSorted_eq {ys : Array Rat} (hne : 0 < ys.size) (p : Rat) : percentileOfSorted ys p =
    ys.getD (lowerRank ys.size p) ((0 : Nat) : Rat) +
      (ys.getD (upperRank ys.size p) ((0 : Nat) : Rat) - ys.getD (lowerRank ys.size p) ((0 : Nat) : Rat)) *
      (rank ys.size p - (lowerRank ys.size p : Rat)) := by
  have hlower := lowerRank_le ys.size p
  have hupper := upperRank_le ys.size p
  unfold percentileOfSorted
  split
  · omega
  · rename_i hone
    rw [hone] at hlower hupper ⊢
    rw [Nat.le_zero.mp hlower, Nat.le_zero.mp hupper, sub_self, zero_mul, add_zero]
  · rfl

theorem percentileOfSorted_mem {ys : Array Rat} (hne : 0 < ys.size) (h : ∀ y ∈ ys, lo ≤ y ∧ y ≤ hi)
    (p : Rat) : lo ≤ percentileOfSorted ys p ∧ percentileOfSorted ys p ≤ hi := by
  have hread : ∀ i, i ≤ ys.size - 1 →
      lo ≤ ys.getD i ((0 : Nat) : Rat) ∧ ys.getD i ((0 : Nat) : Rat) ≤ hi := by
    intro i hi
    have hlt : i < ys.size := by omega
    rw [← Array.getElem_eq_getD (h := hlt)]
    exact h _ (Array.getElem_mem hlt)
  obtain ⟨hfrom, hto⟩ := lowerRank_mem ys.size p
  rw [percentileOfSorted_eq hne]
  exact between (hread _ (lowerRank_le ys.size p)) (hread _ (upperRank_le ys.size p)) ⟨by linarith, by linarith⟩

theorem percentileOfSorted_sorted_mem (hne : xs ≠ []) (h : ∀ x ∈ xs, lo ≤ x ∧ x ≤ hi) (p : Rat) :
    lo ≤ percentileOfSorted (sorted xs).toArray p ∧
      percentileOfSorted (sorted xs).toArray p ≤ hi := by
  apply percentileOfSorted_mem
  · simpa [length_sorted] using List.length_pos_iff.mpr hne
  · intro y hy
    exact h y (mem_sorted.mp (List.mem_toArray.mp hy))

end Stats

end FleetSizing
