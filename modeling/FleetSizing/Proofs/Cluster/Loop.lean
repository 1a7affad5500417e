import FleetSizing.Proofs.Cluster.Division
import FleetSizing.Proofs.Scalar.Rational
import Mathlib.Algebra.BigOperators.Group.List.Basic
import Mathlib.Data.List.Forall2
import Mathlib.Data.List.GetD
import Mathlib.Order.Bounds.Basic

/-! The loop that moves centroids and assigns points: how it ends, and that the labels it leaves belong to the
centroids it leaves, whether it settled or ran into its limit. -/
namespace FleetSizing

/-- The places below `n` with the greatest value. -/
def Peaks (f : Nat → Rat) (n : Nat) : Set Nat := {i | i < n ∧ ∀ j < n, f j ≤ f i}

section

variable {f : Nat → Rat} {n i : Nat}

theorem isLeast_peaks_one (f : Nat → Rat) : IsLeast (Peaks f 1) 0 := by
  refine ⟨⟨Nat.one_pos, fun j hj => ?_⟩, fun _ _ => Nat.zero_le _⟩
  rw [Nat.lt_one_iff.mp hj]

theorem isLeast_peaks_succ_of_lt (h : ∀ j < n, f j < f n) : IsLeast (Peaks f (n + 1)) n := by
  refine ⟨⟨Nat.lt_succ_self n, fun j hj => ?_⟩, fun k hk => ?_⟩
  · rcases Nat.lt_succ_iff_lt_or_eq.mp hj with hlt | rfl
    · exact (h j hlt).le
    · exact le_rfl
  · by_contra hlt
    exact absurd (hk.2 n (Nat.lt_succ_self n)) (not_le.mpr (h k (Nat.not_le.mp hlt)))

theorem isLeast_peaks_succ_of_le (h : IsLeast (Peaks f n) i) (hle : f n ≤ f i) :
    IsLeast (Peaks f (n + 1)) i := by
  refine ⟨⟨Nat.lt_succ_of_lt h.1.1, fun j hj => ?_⟩, fun k hk => ?_⟩
  · rcases Nat.lt_succ_iff_lt_or_eq.mp hj with hlt | rfl
    · exact h.1.2 j hlt
    · exact hle
  · rcases Nat.lt_succ_iff_lt_or_eq.mp hk.1 with hlt | rfl
    · exact h.2 ⟨hlt, fun j hj => hk.2 j (Nat.lt_succ_of_lt hj)⟩
    · exact h.1.1.le

end

namespace KMeans

/-- The indices of the centroids than which none is nearer. -/
def Nearest (p : Point Rat) (centroids : List (Point Rat)) : Set Nat :=
  {i | ∃ c, centroids[i]? = some c ∧ ∀ c' ∈ centroids, distance p c ≤ distance p c'}

section

variable {p c : Point Rat} {centroids cs : List (Point Rat)} {f : Nat → Rat} {i b : Nat} {d : Rat}

theorem isLeast_nearestFrom (hf : ∀ j c, cs[j]? = some c → f (i + j) = -distance p c)
    (hbest : IsLeast (Peaks f i) b) (hd : f b = -d) :
    IsLeast (Peaks f (i + cs.length)) (nearestFrom p cs i (some (b, d))) := by
  induction cs generalizing i b d with
  | nil => exact hbest
  | cons c cs ih =>
    have hfirst : f i = -distance p c := hf 0 c rfl
    have hrest : ∀ j c, cs[j]? = some c → f (i + 1 + j) = -distance p c := by
      intro j c' hc
      rw [Nat.add_right_comm]
      exact hf (j + 1) c' hc
    rw [nearestFrom, List.length_cons, ← Nat.add_assoc, Nat.add_right_comm]
    by_cases hnearer : distance p c < d
    · simp only [hnearer, decide_true, if_true]
      refine ih hrest (isLeast_peaks_succ_of_lt fun j hj => ?_) hfirst
      exact (hbest.1.2 j hj).trans_lt (by rw [hd, hfirst]; exact neg_lt_neg hnearer)
    · simp only [hnearer, decide_false, Bool.false_eq_true, if_false]
      refine ih hrest (isLeast_peaks_succ_of_le hbest ?_) hd
      rw [hd, hfirst]
      exact neg_le_neg (not_lt.mp hnearer)

theorem isLeast_nearest (p : Point Rat) (h : centroids ≠ []) :
    IsLeast (Nearest p centroids) (nearest centroids p) := by
  let f := fun i => -distance p (centroids.getD i default)
  have hpeaks : Peaks f centroids.length = Nearest p centroids := by
    ext i
    simp only [Peaks, Nearest, Set.mem_ofPred_eq, List.getElem?_eq_some_iff]
    constructor
    · rintro ⟨hi, hleast⟩
      refine ⟨_, ⟨hi, rfl⟩, fun c' hc' => ?_⟩
      obtain ⟨j, hj, rfl⟩ := List.mem_iff_getElem.mp hc'
      simpa [f, List.getD_eq_getElem, hi, hj] using hleast j hj
    · rintro ⟨c, ⟨hi, rfl⟩, hleast⟩
      refine ⟨hi, fun j hj => ?_⟩
      simpa [f, List.getD_eq_getElem, hi, hj] using hleast _ (List.getElem_mem hj)
  rw [← hpeaks, nearest]
  cases centroids with
  | nil => exact absurd rfl h
  | cons c cs =>
    have hf : ∀ j c', cs[j]? = some c' → f (1 + j) = -distance p c' := by
      intro j c' hc
      simp [f, Nat.add_comm 1 j, hc]
    rw [List.length_cons, Nat.add_comm]
    exact isLeast_nearestFrom hf (isLeast_peaks_one f) rfl

end

section

variable {α : Type} [Scalar α] {points : List (Point α)} {s : List (Point α) × List Nat} {k m n : Nat}

/-- One turn of the loop: centroids move to their points, then points are assigned to centroids. -/
def step (points : List (Point α)) (s : List (Point α) × List Nat) : List (Point α) × List Nat :=
  let moved := update points s.2 s.1
  (moved, assign points moved)

/-- What the loop starts from. -/
def start (points : List (Point α)) (k : Nat) : List (Point α) × List Nat :=
  let first := seeds points (max 1 (min k points.length))
  (first, assign points first)

/-- The last of `m` steps left all labels alone. -/
def Settled (points : List (Point α)) (s : List (Point α) × List Nat) : Nat → Prop
  | 0 => False
  | m + 1 => ((step points)^[m + 1] s).2 = ((step points)^[m] s).2

/-- The loop ends with the first step that leaves all labels alone, or at its limit. -/
structure Ends (points : List (Point α)) (limit : Nat) (s : List (Point α) × List Nat) (m : Nat) : Prop where
  le_limit : m ≤ limit
  unsettled : ∀ j < m, ¬ Settled points s j
  settled : m < limit → Settled points s m

theorem Ends.pos (h : Ends points n s m) (hn : 0 < n) : 0 < m := by
  rcases Nat.eq_zero_or_pos m with rfl | hpos
  · exact (h.settled hn).elim
  · exact hpos

/-- The loop returns the state after the step it ends with. -/
theorem descend_ends (points : List (Point α)) (n : Nat) (s : List (Point α) × List Nat) :
    ∃ m, Ends points n s m ∧ descend points n s.1 s.2 = (step points)^[m] s := by
  induction n generalizing s with
  | zero => exact ⟨0, ⟨Nat.le_refl 0, nofun, nofun⟩, rfl⟩
  | succ n ih =>
    rw [descend]
    by_cases hstay : (step points s).2 = s.2
    · refine ⟨1, ⟨by omega, fun j hj => ?_, fun _ => hstay⟩, ?_⟩
      · rw [Nat.lt_one_iff.mp hj]
        exact id
      · exact (if_pos (beq_iff_eq.mpr hstay)).trans (Prod.ext rfl hstay.symm)
    · obtain ⟨m, hends, hrun⟩ := ih (step points s)
      refine ⟨m + 1, ⟨Nat.succ_le_succ hends.le_limit, ?_, ?_⟩, ?_⟩
      · rintro (_ | _ | j) hj
        · exact id
        · exact hstay
        · exact hends.unsettled (j + 1) (by omega)
      · intro hlt
        have hsettled := hends.settled (by omega)
        cases m with
        | zero => exact hsettled.elim
        | succ m => exact hsettled
      · rw [Function.iterate_succ_apply, ← hrun]
        exact if_neg (mt beq_iff_eq.mp hstay)

/-- Labels are always those of the centroids beside them. -/
theorem labels_iterate_step (points : List (Point α)) (k m : Nat) :
    ((step points)^[m] (start points k)).2 = assign points ((step points)^[m] (start points k)).1 := by
  cases m with
  | zero => rfl
  | succ m =>
    rw [Function.iterate_succ_apply']
    rfl

/-- A fit is read off the state that the loop ends with. -/
theorem fit_ends (h : points ≠ []) (k : Nat) :
    ∃ m, Ends points maxSteps (start points k) m ∧
      ((fit points k).centroids, (fit points k).labels) = (step points)^[m] (start points k) ∧
      (fit points k).wcss = squares points (fit points k).centroids (fit points k).labels := by
  obtain ⟨m, hends, hrun⟩ := descend_ends points maxSteps (start points k)
  refine ⟨m, hends, ?_, ?_⟩
  · rw [← hrun, fit, if_neg (by simpa using h)]
    rfl
  · rw [fit, if_neg (by simpa using h)]

theorem labels_fit (h : points ≠ []) (k : Nat) :
    (fit points k).labels = assign points (fit points k).centroids := by
  obtain ⟨m, -, hstate, -⟩ := fit_ends h k
  have hlabels := labels_iterate_step points k m
  rwa [← hstate] at hlabels

end

variable {points centroids ps : List (Point Rat)} {labels : List Nat} {p c : Point Rat} {l k : Nat}

theorem squares_cons (hc : centroids[l]? = some c) :
    squares (p :: points) centroids (l :: labels) = distance p c + squares points centroids labels := by
  rw [squares, List.zip_cons_cons, List.filterMap_cons_some (b := distance p c) (by simp [hc]),
    Scalar.sum_cons]
  rfl

/-- How far a point lies from its nearest centroid. -/
def leastDistance (centroids : List (Point Rat)) (p : Point Rat) : Rat :=
  distance p (centroids.getD (nearest centroids p) default)

theorem isLeast_leastDistance (p : Point Rat) (h : centroids ≠ []) :
    IsLeast {x | ∃ c ∈ centroids, x = distance p c} (leastDistance centroids p) := by
  obtain ⟨⟨c, hc, hleast⟩, -⟩ := isLeast_nearest p h
  have hdistance : leastDistance centroids p = distance p c := by
    rw [leastDistance, List.getD_eq_getElem?_getD, hc, Option.getD_some]
  rw [hdistance]
  refine ⟨⟨c, List.mem_of_getElem? hc, rfl⟩, ?_⟩
  rintro _ ⟨c', hc', rfl⟩
  exact hleast c' hc'

theorem squares_assign (points : List (Point Rat)) (h : centroids ≠ []) :
    squares points centroids (assign points centroids) = (points.map (leastDistance centroids)).sum := by
  induction points with
  | nil => rfl
  | cons p points ih =>
    have hlt : nearest centroids p < centroids.length := nearest_lt h
    rw [List.map_cons, List.sum_cons, ← ih, leastDistance, List.getD_eq_getElem _ _ hlt]
    exact squares_cons (List.getElem?_eq_getElem hlt)

/-- The point at the mean of both loads. -/
def mean (ps : List (Point Rat)) : Point Rat :=
  ⟨(ps.map (·.cpu)).sum / (ps.length : Rat), (ps.map (·.memory)).sum / (ps.length : Rat)⟩

theorem meanOr_of_ne_nil (c : Point Rat) (h : ps ≠ []) : meanOr c ps = mean ps := by
  have htotal : ∀ (qs : List (Point Rat)) (s : Point Rat),
      qs.foldl (fun s p => (⟨s.cpu + p.cpu, s.memory + p.memory⟩ : Point Rat)) s =
        ⟨s.cpu + (qs.map (·.cpu)).sum, s.memory + (qs.map (·.memory)).sum⟩ := by
    intro qs
    induction qs with
    | nil => simp
    | cons q qs ih =>
      intro s
      rw [List.foldl_cons, ih]
      simp [add_assoc]
  rw [meanOr, if_neg (by simpa using h)]
  simp only [htotal, mean]
  simp

theorem getElem?_update (points : List (Point Rat)) (labels : List Nat) (centroids : List (Point Rat)) (i : Nat) :
    (update points labels centroids)[i]? =
      centroids[i]?.map fun c => meanOr c (members points labels i) := by
  rw [update, List.getElem?_mapIdx]

/-- The centroids of a step that left all labels alone are the means of their points. -/
theorem eq_mean_of_settled {s : List (Point Rat) × List Nat} {m i : Nat} (h : Settled points s m)
    (hc : ((step points)^[m] s).1[i]? = some c)
    (hmembers : members points ((step points)^[m] s).2 i ≠ []) :
    c = mean (members points ((step points)^[m] s).2 i) := by
  cases m with
  | zero => exact h.elim
  | succ m =>
    rw [show ((step points)^[m + 1] s).2 = ((step points)^[m] s).2 from h] at hmembers ⊢
    rw [Function.iterate_succ_apply', step, getElem?_update, Option.map_eq_some_iff] at hc
    obtain ⟨old, -, rfl⟩ := hc
    exact meanOr_of_ne_nil old hmembers

/-- What a fit returns belongs together: every point has the label of its nearest centroid, the lowest of several,
however the loop ended; and where it settled, centroids are the means of the points they label. -/
theorem fit_labels_nearest (h : points ≠ []) (k : Nat) :
    (fit points k).centroids.length = min (max k 1) points.length ∧
      (fit points k).labels.length = points.length ∧
      List.Forall₂ (fun p l => IsLeast (Nearest p (fit points k).centroids) l) points (fit points k).labels ∧
      (∃ ds, List.Forall₂ (fun p d => IsLeast {x | ∃ c ∈ (fit points k).centroids, x = distance p c} d) points ds ∧
        (fit points k).wcss = ds.sum) ∧
      ∃ m, Ends points maxSteps (start points k) m ∧
        ((fit points k).centroids, (fit points k).labels) = (step points)^[m] (start points k) ∧
        (Settled points (start points k) m → ∀ i c, (fit points k).centroids[i]? = some c →
          members points (fit points k).labels i ≠ [] → c = mean (members points (fit points k).labels i)) := by
  have hpos := List.length_pos_iff.mpr h
  have hdivision := fit_isDivision h k
  have hcentroids : (fit points k).centroids ≠ [] := by
    rw [← List.length_pos_iff, hdivision.length_centroids]
    omega
  obtain ⟨m, hends, hstate, hwcss⟩ := fit_ends h k
  refine ⟨?_, hdivision.length_labels, ?_, ?_, m, hends, hstate, ?_⟩
  · rw [hdivision.length_centroids]
    omega
  · rw [labels_fit h k, assign, List.forall₂_map_right_iff, List.forall₂_same]
    exact fun p _ => isLeast_nearest p hcentroids
  · refine ⟨points.map (leastDistance (fit points k).centroids), ?_, ?_⟩
    · rw [List.forall₂_map_right_iff, List.forall₂_same]
      exact fun p _ => isLeast_leastDistance p hcentroids
    · rw [hwcss, labels_fit h k]
      exact squares_assign points hcentroids
  · intro hsettled i c hc hmembers
    obtain ⟨hfirst, hsecond⟩ := Prod.ext_iff.mp hstate
    simp only at hfirst hsecond
    rw [hfirst] at hc
    rw [hsecond] at hmembers ⊢
    exact eq_mean_of_settled hsettled hc hmembers

/-- Two of three seeds lie at one place, and the second of them loses all points to the first. -/
def crowd : List (Point Rat) := [⟨1, 1⟩, ⟨1, 1⟩, ⟨1, 1⟩, ⟨9, 5⟩]

theorem mergeSort_crowd : crowd.mergeSort (fun a b => ¬ b.cpu + b.memory < a.cpu + a.memory) = crowd :=
  List.mergeSort_of_pairwise (by decide +kernel)

theorem fit_labels_nearest_crowd : crowd ≠ [] ∧ (fit crowd 3).centroids.length = 3 ∧
    (fit crowd 3).labels = [0, 0, 0, 2] ∧
    List.Forall₂ (fun p l => IsLeast (Nearest p (fit crowd 3).centroids) l) crowd (fit crowd 3).labels := by
  have hne : crowd ≠ [] := List.cons_ne_nil _ _
  obtain ⟨hcentroids, -, hlabels, -⟩ := fit_labels_nearest hne 3
  have hrun : (fit crowd 3).labels = [0, 0, 0, 2] := by
    simp only [fit, seeds, mergeSort_crowd]
    decide +kernel
  exact ⟨hne, hcentroids, hrun, hlabels⟩

end KMeans

end FleetSizing
