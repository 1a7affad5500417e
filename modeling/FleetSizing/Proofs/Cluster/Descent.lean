import FleetSizing.Proofs.Cluster.Loop
import Mathlib.Algebra.BigOperators.Group.Finset.Piecewise
import Mathlib.Algebra.CharP.Defs
import Mathlib.Algebra.Order.BigOperators.Group.Finset
import Mathlib.Algebra.Order.BigOperators.Group.List
import Mathlib.Algebra.Order.Ring.Star
import Mathlib.Data.List.Permutation
import Mathlib.Data.Rat.Floor
import Mathlib.Data.Rat.Star
import Mathlib.Tactic.FieldSimp
import Mathlib.Tactic.Positivity
import Mathlib.Tactic.Ring

/-! No step of the loop raises the sum of squares: moving a centroid to the mean of its points does not, and
neither does giving a point its nearest centroid. From one step on it is at most that of a single cluster. -/
namespace FleetSizing.KMeans

variable {points centroids ps : List (Point Rat)} {labels : List Nat} {p q : Point Rat} {i k m n : Nat}
  {s : List (Point Rat) × List Nat}

theorem distance_nonneg (p q : Point Rat) : 0 ≤ distance p q :=
  add_nonneg (mul_self_nonneg _) (mul_self_nonneg _)

theorem distance_self (p : Point Rat) : distance p p = 0 := by
  simp [distance]

/-- Sum of the squared distances of some points from one centroid. -/
def cost (q : Point Rat) (ps : List (Point Rat)) : Rat := (ps.map fun p => distance p q).sum

theorem cost_eq (q : Point Rat) (ps : List (Point Rat)) :
    cost q ps = cost ⟨0, 0⟩ ps -
      2 * (q.cpu * (ps.map (·.cpu)).sum + q.memory * (ps.map (·.memory)).sum) +
      (ps.length : Rat) * (q.cpu * q.cpu + q.memory * q.memory) := by
  induction ps with
  | nil => simp [cost]
  | cons p ps ih =>
    simp only [cost, List.map_cons, List.sum_cons, List.length_cons, Nat.cast_add, Nat.cast_one] at ih ⊢
    rw [ih]
    simp only [distance]
    ring

/-- The cost of a centroid exceeds that of the mean by its distance from the mean, once for each point. -/
theorem cost_eq_cost_mean_add (h : ps ≠ []) (q : Point Rat) :
    cost q ps = cost (mean ps) ps + (ps.length : Rat) * distance (mean ps) q := by
  have hlength : (ps.length : Rat) ≠ 0 := Nat.cast_ne_zero.mpr (mt List.length_eq_zero_iff.mp h)
  have hcpu : (ps.map (·.cpu)).sum = (ps.length : Rat) * (mean ps).cpu := (mul_div_cancel₀ _ hlength).symm
  have hmemory : (ps.map (·.memory)).sum = (ps.length : Rat) * (mean ps).memory :=
    (mul_div_cancel₀ _ hlength).symm
  rw [cost_eq q, cost_eq (mean ps), hcpu, hmemory, distance]
  ring

theorem cost_mean_le (h : ps ≠ []) (q : Point Rat) : cost (mean ps) ps ≤ cost q ps := by
  rw [cost_eq_cost_mean_add h q]
  exact le_add_of_nonneg_right (mul_nonneg (Nat.cast_nonneg _) (distance_nonneg _ _))

theorem cost_meanOr_le (old q : Point Rat) (ps : List (Point Rat)) : cost (meanOr old ps) ps ≤ cost q ps := by
  by_cases h : ps = []
  · subst h
    exact le_rfl
  · rw [meanOr_of_ne_nil old h]
    exact cost_mean_le h q

theorem members_cons (p : Point Rat) (l : Nat) : members (p :: points) (l :: labels) i =
    if l = i then p :: members points labels i else members points labels i := by
  rw [members, List.zip_cons_cons]
  split
  · exact List.filterMap_cons_some (if_pos ‹_›)
  · exact List.filterMap_cons_none (if_neg ‹_›)

/-- A sum over all points, taken cluster by cluster. -/
theorem sum_members (f : Nat → Point Rat → Rat) (points : List (Point Rat)) (h : ∀ l ∈ labels, l < k) :
    ∑ i ∈ Finset.range k, ((members points labels i).map (f i)).sum =
      ((points.zip labels).map fun pl => f pl.2 pl.1).sum := by
  induction points generalizing labels with
  | nil => simp [members]
  | cons p points ih =>
    cases labels with
    | nil => simp [members]
    | cons l labels =>
      have hsplit : ∀ i, ((members (p :: points) (l :: labels) i).map (f i)).sum =
          (if l = i then f i p else 0) + ((members points labels i).map (f i)).sum := by
        intro i
        rw [members_cons]
        split <;> simp
      have hl : l ∈ Finset.range k := Finset.mem_range.mpr (h l List.mem_cons_self)
      simp only [hsplit, Finset.sum_add_distrib, Finset.sum_ite_eq, hl, if_true, List.zip_cons_cons,
        List.map_cons, List.sum_cons]
      rw [ih fun l hl => h l (List.mem_cons_of_mem _ hl)]

theorem squares_eq (points : List (Point Rat)) (h : ∀ l ∈ labels, l < centroids.length) :
    squares points centroids labels =
      ((points.zip labels).map fun pl => distance pl.1 (centroids.getD pl.2 default)).sum := by
  induction points generalizing labels with
  | nil => rfl
  | cons p points ih =>
    cases labels with
    | nil => rfl
    | cons l labels =>
      have hl := h l List.mem_cons_self
      rw [squares_cons (List.getElem?_eq_getElem hl), List.zip_cons_cons, List.map_cons, List.sum_cons,
        ih fun l hl => h l (List.mem_cons_of_mem _ hl)]
      simp only [List.getD_eq_getElem _ _ hl]

theorem squares_nonneg (points : List (Point Rat)) (h : ∀ l ∈ labels, l < centroids.length) :
    0 ≤ squares points centroids labels := by
  rw [squares_eq points h]
  refine List.sum_nonneg fun x hx => ?_
  obtain ⟨pl, -, rfl⟩ := List.mem_map.mp hx
  exact distance_nonneg _ _

/-- Moved to their points, centroids cost no more than any others would with the same labels. -/
theorem squares_update_le (points : List (Point Rat)) (h : ∀ l ∈ labels, l < centroids.length)
    (other : Nat → Point Rat) : squares points (update points labels centroids) labels ≤
      ((points.zip labels).map fun pl => distance pl.1 (other pl.2)).sum := by
  rw [squares_eq points (by rwa [length_update]),
    ← sum_members (fun i p => distance p ((update points labels centroids).getD i default)) points h,
    ← sum_members (fun i p => distance p (other i)) points h]
  refine Finset.sum_le_sum fun i hi => ?_
  have hmoved : (update points labels centroids).getD i default =
      meanOr (centroids.getD i default) (members points labels i) := by
    simp [List.getD_eq_getElem?_getD, getElem?_update, List.getElem?_eq_getElem (Finset.mem_range.mp hi)]
  rw [hmoved]
  exact cost_meanOr_le _ _ _

/-- The nearest centroids cost no more than any others. -/
theorem squares_assign_le (hlength : labels.length = points.length) (h : ∀ l ∈ labels, l < centroids.length) :
    squares points centroids (assign points centroids) ≤ squares points centroids labels := by
  induction points generalizing labels with
  | nil => exact le_of_eq rfl
  | cons p points ih =>
    cases labels with
    | nil => cases hlength
    | cons l labels =>
      have hl := h l List.mem_cons_self
      obtain ⟨⟨c, hc, hleast⟩, -⟩ := isLeast_nearest p (List.ne_nil_of_length_pos (Nat.zero_lt_of_lt hl))
      have hrest := ih (Nat.succ.inj hlength) fun l hl => h l (List.mem_cons_of_mem _ hl)
      rw [squares_cons (List.getElem?_eq_getElem hl), assign, List.map_cons, squares_cons hc]
      exact add_le_add (hleast _ (List.getElem_mem hl)) hrest

/-- A label for each point, each that of a centroid. -/
structure Divides (points : List (Point Rat)) (s : List (Point Rat) × List Nat) : Prop where
  length_labels : s.2.length = points.length
  label_lt : ∀ l ∈ s.2, l < s.1.length
  centroids_ne_nil : s.1 ≠ []

theorem divides_assign (points : List (Point Rat)) (h : centroids ≠ []) :
    Divides points (centroids, assign points centroids) :=
  ⟨List.length_map _, lt_of_mem_assign points h, h⟩

theorem divides_start (h : points ≠ []) (k : Nat) : Divides points (start points k) := by
  apply divides_assign
  rw [← List.length_pos_iff, length_seeds h]
  omega

theorem divides_step (h : Divides points s) : Divides points (step points s) := by
  apply divides_assign
  rw [← List.length_pos_iff, length_update]
  exact List.length_pos_iff.mpr h.centroids_ne_nil

theorem divides_iterate (h : Divides points s) (m : Nat) : Divides points ((step points)^[m] s) := by
  induction m with
  | zero => exact h
  | succ m ih =>
    rw [Function.iterate_succ_apply']
    exact divides_step ih

/-- The sum of squares in a state of the loop. -/
def total (points : List (Point Rat)) (s : List (Point Rat) × List Nat) : Rat := squares points s.1 s.2

theorem total_nonneg (h : Divides points s) : 0 ≤ total points s := squares_nonneg points h.label_lt

/-- After a step the sum of squares is at most that of any centroids with the labels before it. -/
theorem total_step_le (h : Divides points s) (other : Nat → Point Rat) :
    total points (step points s) ≤ ((points.zip s.2).map fun pl => distance pl.1 (other pl.2)).sum := by
  have hmoved : ∀ l ∈ s.2, l < (update points s.2 s.1).length := by
    rw [length_update]
    exact h.label_lt
  calc total points (step points s)
      ≤ squares points (update points s.2 s.1) s.2 := squares_assign_le h.length_labels hmoved
    _ ≤ _ := squares_update_le points h.label_lt other

theorem total_step_le_total (h : Divides points s) : total points (step points s) ≤ total points s := by
  refine (total_step_le h fun i => s.1.getD i default).trans (le_of_eq ?_)
  exact (squares_eq points h.label_lt).symm

theorem total_iterate_le (h : Divides points s) (hmn : m ≤ n) :
    total points ((step points)^[n] s) ≤ total points ((step points)^[m] s) := by
  induction n, hmn using Nat.le_induction with
  | base => exact le_rfl
  | succ n _ ih =>
    rw [Function.iterate_succ_apply']
    exact (total_step_le_total (divides_iterate h n)).trans ih

theorem sum_zip_eq_cost (hlength : labels.length = points.length) (q : Point Rat) :
    ((points.zip labels).map fun pl => distance pl.1 q).sum = cost q points := by
  have hpoints : (points.zip labels).map Prod.fst = points :=
    List.map_fst_zip (Nat.le_of_eq hlength.symm)
  rw [cost]
  conv_rhs => rw [← hpoints, List.map_map]
  rfl

/-- After a step the sum of squares is at most that of all points in one cluster. -/
theorem total_step_le_cost (h : Divides points s) (q : Point Rat) :
    total points (step points s) ≤ cost q points := by
  rw [← sum_zip_eq_cost h.length_labels q]
  exact total_step_le h fun _ => q

theorem wcss_fit (h : points ≠ []) (k : Nat) : ∃ m, Ends points maxSteps (start points k) m ∧
    ((fit points k).centroids, (fit points k).labels) = (step points)^[m] (start points k) ∧
    (fit points k).wcss = total points ((step points)^[m] (start points k)) := by
  obtain ⟨m, hends, hstate, hwcss⟩ := fit_ends h k
  exact ⟨m, hends, hstate, hstate ▸ hwcss⟩

theorem wcss_fit_le_total_start (h : points ≠ []) (k : Nat) :
    (fit points k).wcss ≤ total points (start points k) := by
  obtain ⟨m, -, -, hwcss⟩ := wcss_fit h k
  have hle := total_iterate_le (divides_start h k) (Nat.zero_le m)
  rw [Function.iterate_zero_apply] at hle
  rwa [hwcss]

theorem wcss_fit_le_cost (h : points ≠ []) (k : Nat) (q : Point Rat) : (fit points k).wcss ≤ cost q points := by
  obtain ⟨m, hends, -, hwcss⟩ := wcss_fit h k
  have hstart := divides_start h k
  rw [hwcss]
  calc total points ((step points)^[m] (start points k))
      ≤ total points ((step points)^[1] (start points k)) :=
        total_iterate_le hstart (hends.pos (by decide))
    _ ≤ cost q points := total_step_le_cost hstart q

theorem wcss_fit_nonneg (h : points ≠ []) (k : Nat) : 0 ≤ (fit points k).wcss := by
  obtain ⟨m, -, -, hwcss⟩ := wcss_fit h k
  rw [hwcss]
  exact total_nonneg (divides_iterate (divides_start h k) m)

/-- A single cluster costs what all points do around one centroid. -/
theorem wcss_fit_one (h : points ≠ []) : ∃ q, (fit points 1).wcss = cost q points := by
  have hdivision := fit_isDivision h 1
  have hone : max 1 (min 1 points.length) = 1 := by omega
  rw [hone] at hdivision
  have hlt : ∀ l ∈ (fit points 1).labels, l < (fit points 1).centroids.length := by
    rw [hdivision.length_centroids]
    exact hdivision.label_lt
  obtain ⟨m, -, -, hwcss⟩ := fit_ends h 1
  refine ⟨(fit points 1).centroids.getD 0 default, ?_⟩
  rw [hwcss, squares_eq points hlt, ← sum_zip_eq_cost hdivision.length_labels]
  congr 1
  refine List.map_congr_left fun pl hpl => ?_
  rw [Nat.lt_one_iff.mp (hdivision.label_lt _ (List.of_mem_zip hpl).2)]

theorem wcss_fit_le_wcss_fit_one (h : points ≠ []) (k : Nat) : (fit points k).wcss ≤ (fit points 1).wcss := by
  obtain ⟨q, hq⟩ := wcss_fit_one h
  rw [hq]
  exact wcss_fit_le_cost h k q

/-- With as many clusters as points, the rank of a seed is its own number. -/
theorem natPart_rank (hn : 0 < n) (i : Nat) :
    Scalar.natPart (((i : Rat) + Scalar.ratio 1 2) / (n : Rat) * (n : Rat)) = i := by
  have hne : (n : Rat) ≠ 0 := Nat.cast_ne_zero.mpr (Nat.ne_of_gt hn)
  have hfloor : ⌊(i : Rat) + Scalar.ratio 1 2⌋ = (i : Int) := by
    rw [Int.floor_eq_iff, Scalar.ratio_rat]
    push_cast
    constructor <;> linarith
  rw [div_mul_cancel₀ _ hne]
  change ⌊(i : Rat) + Scalar.ratio 1 2⌋.toNat = i
  rw [hfloor, Int.toNat_natCast]

theorem mem_seeds (h : p ∈ points) : p ∈ seeds points points.length := by
  obtain ⟨i, hi, hp⟩ := List.mem_iff_getElem.mp (List.mem_mergeSort.mpr h :
    p ∈ points.mergeSort fun a b => ¬ b.cpu + b.memory < a.cpu + a.memory)
  rw [List.length_mergeSort] at hi
  refine List.mem_filterMap.mpr ⟨i, List.mem_range.mpr hi, ?_⟩
  have hrank : min i (points.length - 1) = i := by omega
  simp only [natPart_rank (Nat.zero_lt_of_lt hi), hrank, List.getElem?_toArray]
  exact List.getElem?_eq_some_iff.mpr ⟨_, hp⟩

/-- With a cluster for each point, every point is a centroid from the start. -/
theorem total_start_of_length_le (h : points ≠ []) (hk : points.length ≤ k) :
    total points (start points k) = 0 := by
  have hpos := List.length_pos_iff.mpr h
  have hseeds : (start points k).1 = seeds points points.length := by
    rw [start, show max 1 (min k points.length) = points.length by omega]
  refine (squares_assign points (divides_start h k).centroids_ne_nil).trans (List.sum_eq_zero fun d hd => ?_)
  obtain ⟨p, hp, rfl⟩ := List.mem_map.mp hd
  have hcentroid : p ∈ (start points k).1 := hseeds ▸ mem_seeds hp
  obtain ⟨⟨c, -, hc⟩, hleast⟩ := isLeast_leastDistance p (divides_start h k).centroids_ne_nil
  refine le_antisymm ?_ (hc ▸ distance_nonneg p c)
  exact hleast ⟨p, hcentroid, (distance_self p).symm⟩

theorem wcss_fit_eq_zero (h : points ≠ []) (hk : points.length ≤ k) : (fit points k).wcss = 0 := by
  refine le_antisymm ?_ (wcss_fit_nonneg h k)
  rw [← total_start_of_length_le h hk]
  exact wcss_fit_le_total_start h k

/-- No step of the loop raises the sum of squares. So a fit is at most as bad as that of a single cluster, and it
is exact once there is a cluster for each point. -/
theorem fit_descends (h : points ≠ []) (k : Nat) :
    (∃ m, Ends points maxSteps (start points k) m ∧
      ((fit points k).centroids, (fit points k).labels) = (step points)^[m] (start points k) ∧
      (fit points k).wcss = total points ((step points)^[m] (start points k)) ∧
      ∀ j < m, total points ((step points)^[j + 1] (start points k)) ≤
        total points ((step points)^[j] (start points k))) ∧
      (fit points k).wcss ≤ (fit points 1).wcss ∧
      (points.length ≤ k → (fit points k).wcss = 0) := by
  obtain ⟨m, hends, hstate, hwcss⟩ := wcss_fit h k
  refine ⟨⟨m, hends, hstate, hwcss, fun j _ => ?_⟩, wcss_fit_le_wcss_fit_one h k, wcss_fit_eq_zero h⟩
  exact total_iterate_le (divides_start h k) (Nat.le_succ j)

theorem fit_descends_crowd : crowd ≠ [] ∧ (fit crowd 2).wcss ≤ (fit crowd 1).wcss ∧ (fit crowd 1).wcss = 60 ∧
    crowd.length ≤ 4 ∧ (fit crowd 4).wcss = 0 := by
  have hne : crowd ≠ [] := List.cons_ne_nil _ _
  obtain ⟨-, hle, -⟩ := fit_descends hne 2
  obtain ⟨-, -, hexact⟩ := fit_descends hne 4
  have hrun : (fit crowd 1).wcss = 60 := by
    simp only [fit, seeds, mergeSort_crowd]
    decide +kernel
  exact ⟨hne, hle, hrun, by decide, hexact (by decide)⟩

end FleetSizing.KMeans
