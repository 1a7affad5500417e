import FleetSizing.Proofs.Stats.Ranks

/-! Percentiles of exact readings run from the least reading to the greatest, and never fall on the way. -/
namespace FleetSizing.Stats

variable {xs zs : List Rat} {p q : Rat} {n i j : Nat}

theorem rank_mono (n : Nat) (h : p ≤ q) : rank n p ≤ rank n q := by
  have hpercent : ((0 : Nat) : Rat) ≤ ((100 : Nat) : Rat) := by decide
  have hclamp : Scalar.clamp ((0 : Nat) : Rat) ((100 : Nat) : Rat) p ≤
      Scalar.clamp ((0 : Nat) : Rat) ((100 : Nat) : Rat) q := by
    rw [Scalar.clamp_eq_max_min hpercent, Scalar.clamp_eq_max_min hpercent]
    exact max_le_max_left _ (min_le_min_left _ h)
  have hshare := div_le_div_of_nonneg_right hclamp hpercent
  exact mul_le_mul_of_nonneg_right hshare Rat.natCast_nonneg

theorem rank_of_nonpos (n : Nat) (h : p ≤ 0) : rank n p = 0 := by
  have hclamp : Scalar.clamp ((0 : Nat) : Rat) ((100 : Nat) : Rat) p = 0 := by
    rw [Scalar.clamp_eq_max_min (by decide)]
    exact max_eq_left ((min_le_right _ _).trans h)
  rw [rank, hclamp, zero_div, zero_mul]

theorem rank_of_full (n : Nat) (h : 100 ≤ p) : rank n p = ((n - 1 : Nat) : Rat) := by
  have hclamp : Scalar.clamp ((0 : Nat) : Rat) ((100 : Nat) : Rat) p = ((100 : Nat) : Rat) := by
    have hfull : min ((100 : Nat) : Rat) p = ((100 : Nat) : Rat) := min_eq_left h
    rw [Scalar.clamp_eq_max_min (by decide), hfull]
    exact max_eq_right (by decide)
  rw [rank, hclamp, div_self (by decide), one_mul]

theorem lowerRank_mono (n : Nat) (h : p ≤ q) : lowerRank n p ≤ lowerRank n q := by
  have hlt : (lowerRank n p : Rat) < ((lowerRank n q + 1 : Nat) : Rat) := by
    push_cast
    exact ((lowerRank_mem n p).1.trans (rank_mono n h)).trans_lt (lowerRank_mem n q).2
  exact Nat.lt_succ_iff.mp (Rat.natCast_lt_natCast.mp hlt)

theorem lowerRank_le_upperRank (n : Nat) (p : Rat) :
    lowerRank n p ≤ upperRank n p ∧ upperRank n p ≤ lowerRank n p + 1 := by
  simp only [upperRank]
  split <;> omega

theorem upperRank_mono (n : Nat) (h : p ≤ q) : upperRank n p ≤ upperRank n q := by
  obtain ⟨hlower, -⟩ := lowerRank_le_upperRank n q
  obtain ⟨-, hupper⟩ := lowerRank_le_upperRank n p
  rcases (lowerRank_mono n h).lt_or_eq with hlt | heq
  · omega
  · simp only [upperRank, ← heq]
    split
    · rename_i hbetween
      rw [if_pos (hbetween.trans_le (rank_mono n h))]
    · split <;> omega

theorem lowerRank_of_eq (h : rank n p = (i : Rat)) : lowerRank n p = i := by
  obtain ⟨hle, hlt⟩ := lowerRank_mem n p
  rw [h] at hle hlt
  have hfrom : lowerRank n p ≤ i := Rat.natCast_le_natCast.mp hle
  have hto : i < lowerRank n p + 1 := by
    apply Rat.natCast_lt_natCast.mp
    push_cast
    exact hlt
  omega

theorem size_pos (hne : zs ≠ []) : 0 < zs.toArray.size := List.length_pos_iff.mpr hne

theorem ranks_lt (hne : zs ≠ []) (p : Rat) :
    lowerRank zs.length p < zs.length ∧ upperRank zs.length p < zs.length := by
  have hpos : 0 < zs.length := size_pos hne
  have hlower := lowerRank_le zs.length p
  have hupper := upperRank_le zs.length p
  omega

theorem getD_le_getD (hsorted : zs.Pairwise (· ≤ ·)) (hij : i ≤ j) (hj : j < zs.length) :
    zs.toArray.getD i ((0 : Nat) : Rat) ≤ zs.toArray.getD j ((0 : Nat) : Rat) := by
  have hi : i < zs.length := hij.trans_lt hj
  rw [← Array.getElem_eq_getD (h := hi), ← Array.getElem_eq_getD (h := hj)]
  simp only [List.getElem_toArray]
  rcases hij.lt_or_eq with hlt | rfl
  · exact List.pairwise_iff_getElem.mp hsorted i j hi hj hlt
  · exact le_rfl

/-- A percentile lies between the values at its two positions. -/
theorem percentileOfSorted_between (hsorted : zs.Pairwise (· ≤ ·)) (hne : zs ≠ []) (p : Rat) :
    zs.toArray.getD (lowerRank zs.length p) ((0 : Nat) : Rat) ≤ percentileOfSorted zs.toArray p ∧
      percentileOfSorted zs.toArray p ≤ zs.toArray.getD (upperRank zs.length p) ((0 : Nat) : Rat) := by
  obtain ⟨hfrom, hto⟩ := lowerRank_mem zs.length p
  have hrises := getD_le_getD hsorted (lowerRank_le_upperRank zs.length p).1 (ranks_lt hne p).2
  rw [percentileOfSorted_eq (size_pos hne), List.size_toArray]
  exact between ⟨le_rfl, hrises⟩ ⟨hrises, le_rfl⟩ ⟨by linarith, by linarith⟩

/-- Between one pair of positions a percentile rises with its share of the way. A later pair of positions starts
where the first one ends, or beyond. -/
theorem percentileOfSorted_le (hsorted : zs.Pairwise (· ≤ ·)) (hne : zs ≠ []) (h : p ≤ q) :
    percentileOfSorted zs.toArray p ≤ percentileOfSorted zs.toArray q := by
  rcases (lowerRank_mono zs.length h).lt_or_eq with hlt | heq
  · have hstarts : upperRank zs.length p ≤ lowerRank zs.length q :=
      (lowerRank_le_upperRank zs.length p).2.trans hlt
    calc percentileOfSorted zs.toArray p
        ≤ zs.toArray.getD (upperRank zs.length p) ((0 : Nat) : Rat) := (percentileOfSorted_between hsorted hne p).2
      _ ≤ zs.toArray.getD (lowerRank zs.length q) ((0 : Nat) : Rat) := getD_le_getD hsorted hstarts (ranks_lt hne q).1
      _ ≤ percentileOfSorted zs.toArray q := (percentileOfSorted_between hsorted hne q).1
  · have hrises := getD_le_getD hsorted (lowerRank_le_upperRank zs.length q).1 (ranks_lt hne q).2
    have hupper := getD_le_getD hsorted (upperRank_mono zs.length h) (ranks_lt hne q).2
    have hrank := rank_mono zs.length h
    have hfrom := (lowerRank_mem zs.length p).1
    rw [percentileOfSorted_eq (size_pos hne), percentileOfSorted_eq (size_pos hne), List.size_toArray, heq]
    rw [heq] at hfrom
    refine add_le_add le_rfl (mul_le_mul ?_ ?_ ?_ ?_)
    · exact sub_le_sub_right hupper _
    · exact sub_le_sub_right hrank _
    · exact sub_nonneg.mpr hfrom
    · exact sub_nonneg.mpr hrises

theorem percentileOfSorted_of_rank (hne : zs ≠ []) (hrank : rank zs.length p = (i : Rat)) :
    percentileOfSorted zs.toArray p = zs.toArray.getD i ((0 : Nat) : Rat) := by
  rw [percentileOfSorted_eq (size_pos hne), List.size_toArray, lowerRank_of_eq hrank, hrank, sub_self, mul_zero,
    add_zero]

theorem sorted_ne_nil (hne : xs ≠ []) : sorted xs ≠ [] := by
  rw [← List.length_pos_iff, length_sorted]
  exact List.length_pos_iff.mpr hne

/-- Each value has a position among the sorted ones. -/
theorem exists_getD_sorted {x : Rat} (hx : x ∈ xs) :
    ∃ i < (sorted xs).length, (sorted xs).toArray.getD i ((0 : Nat) : Rat) = x := by
  obtain ⟨i, hi, rfl⟩ := List.mem_iff_getElem.mp (mem_sorted.mpr hx)
  exact ⟨i, hi, (Array.getElem_eq_getD (h := hi) _).symm⟩

theorem percentile_of_nonpos (hne : xs ≠ []) {lo hi : Rat} (hlo : lo ∈ xs) (hbounds : ∀ x ∈ xs, lo ≤ x ∧ x ≤ hi)
    (h : p ≤ 0) : percentile xs p = lo := by
  obtain ⟨i, hi, hvalue⟩ := exists_getD_sorted hlo
  have hfirst : percentile xs p = (sorted xs).toArray.getD 0 ((0 : Nat) : Rat) :=
    percentileOfSorted_of_rank (sorted_ne_nil hne) (rank_of_nonpos _ h)
  refine le_antisymm ?_ (percentileOfSorted_sorted_mem hne hbounds p).1
  rw [hfirst, ← hvalue]
  exact getD_le_getD (pairwise_sorted xs) (Nat.zero_le i) hi

theorem percentile_of_full (hne : xs ≠ []) {lo hi : Rat} (hhi : hi ∈ xs) (hbounds : ∀ x ∈ xs, lo ≤ x ∧ x ≤ hi)
    (h : 100 ≤ p) : percentile xs p = hi := by
  obtain ⟨i, hi, hvalue⟩ := exists_getD_sorted hhi
  have hlast : percentile xs p = (sorted xs).toArray.getD ((sorted xs).length - 1) ((0 : Nat) : Rat) :=
    percentileOfSorted_of_rank (sorted_ne_nil hne) (rank_of_full _ h)
  refine le_antisymm (percentileOfSorted_sorted_mem hne hbounds p).2 ?_
  rw [hlast, ← hvalue]
  exact getD_le_getD (pairwise_sorted xs) (by omega) (by omega)

/-- The percentiles of some values rise, or stay, from the least value at no percent and below to the greatest at
all and above, and so do those of the ladder. They are read at positions that the values have. -/
theorem percentile_rises (hne : xs ≠ []) : ∃ lo ∈ xs, ∃ hi ∈ xs, (∀ x ∈ xs, lo ≤ x ∧ x ≤ hi) ∧
    (∀ p : Rat, lo ≤ percentile xs p ∧ percentile xs p ≤ hi) ∧
    (∀ p : Rat, p ≤ 0 → percentile xs p = lo) ∧ (∀ p : Rat, 100 ≤ p → percentile xs p = hi) ∧
    (∀ p q : Rat, p ≤ q → percentile xs p ≤ percentile xs q) ∧
    (ladder (sorted xs).toArray).Pairwise (· ≤ ·) ∧
    ∀ p : Rat, lowerRank (sorted xs).length p < (sorted xs).length ∧
      upperRank (sorted xs).length p < (sorted xs).length := by
  obtain ⟨lo, hlo, hi, hhi, hbounds⟩ := exists_bounds hne
  have hne' := sorted_ne_nil hne
  have hrises : ∀ p q, p ≤ q → percentile xs p ≤ percentile xs q :=
    fun p q h => percentileOfSorted_le (pairwise_sorted xs) hne' h
  refine ⟨lo, hlo, hi, hhi, hbounds, percentileOfSorted_sorted_mem hne hbounds,
    fun p hp => percentile_of_nonpos hne hlo hbounds hp, fun p hp => percentile_of_full hne hhi hbounds hp,
    hrises, ?_, ranks_lt hne'⟩
  rw [ladder, List.pairwise_map]
  refine List.pairwise_lt_range.imp fun {p q} hlt => ?_
  exact hrises (p : Rat) (q : Rat) (Rat.natCast_le_natCast.mpr (Nat.le_of_lt hlt))

/-! Readings that are not in order, with one value twice. -/
namespace Unordered

def readings : List Rat := [30, 10, 70, 10]

end Unordered

theorem percentile_rises_unordered : Unordered.readings ≠ [] ∧
    percentile Unordered.readings (-5) = 10 ∧ percentile Unordered.readings 120 = 70 ∧
    percentile Unordered.readings 40 ≤ percentile Unordered.readings 60 := by
  have hne : Unordered.readings ≠ [] := by decide
  obtain ⟨lo, hlo, hi, hhi, hbounds, -, hleast, hmost, hrises, -⟩ := percentile_rises hne
  have hlo' : lo = 10 :=
    le_antisymm (hbounds 10 (by decide)).1 ((by decide : ∀ x ∈ Unordered.readings, 10 ≤ x) lo hlo)
  have hhi' : hi = 70 :=
    le_antisymm ((by decide : ∀ x ∈ Unordered.readings, x ≤ 70) hi hhi) (hbounds 70 (by decide)).2
  exact ⟨hne, hlo' ▸ hleast (-5) (by norm_num), hhi' ▸ hmost 120 (by norm_num), hrises 40 60 (by norm_num)⟩

end FleetSizing.Stats
