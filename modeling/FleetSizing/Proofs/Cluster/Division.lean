import FleetSizing.Proofs.Cluster.Knee
import FleetSizing.Proofs.Trend.Regimes
import Mathlib.Algebra.BigOperators.Group.Finset.Basic
import Mathlib.Data.Finset.Range

/-! Load regimes divide the samples: every sample belongs to one of them, and is counted there. -/
namespace FleetSizing

variable {α : Type} [Scalar α]

/-- As many sizes as labels, none of which is out of range. -/
theorem sum_count_range {labels : List Nat} {k : Nat} (h : ∀ l ∈ labels, l < k) :
    ((List.range k).map labels.count).sum = labels.length := by
  have hcard := Multiset.sum_count_eq_card (s := Finset.range k) (m := (labels : Multiset Nat))
    (by simpa using h)
  rw [Multiset.coe_card] at hcard
  rw [← hcard]
  change _ = (Multiset.map _ (List.range k : Multiset Nat)).sum
  simp only [Multiset.map_coe, Multiset.sum_coe, Multiset.coe_count]

/-- Labels for all points, each of them one of the centroids. -/
structure Fit.IsDivision (fit : Fit α) (size k : Nat) : Prop where
  length_labels : fit.labels.length = size
  length_centroids : fit.centroids.length = k
  label_lt : ∀ l ∈ fit.labels, l < k

namespace KMeans

variable {points centroids : List (Point α)} {labels : List Nat} {p : Point α} {n k : Nat}

theorem nearestFrom_lt {cs : List (Point α)} {i : Nat} {best : Option (Nat × α)}
    (hbest : ∀ b, best = some b → b.1 < i) : nearestFrom p cs i best < max 1 (i + cs.length) := by
  induction cs generalizing i best with
  | nil =>
    cases best with
    | none => exact Nat.lt_of_lt_of_le Nat.one_pos (Nat.le_max_left ..)
    | some b => exact Nat.lt_of_lt_of_le (hbest b rfl) (Nat.le_max_right ..)
  | cons c cs ih =>
    have hnext : ∀ (better : Bool) b, (if better then some (i, distance p c) else best) = some b →
        b.1 < i + 1 := by
      intro better b hb
      split at hb
      · cases hb
        exact Nat.lt_succ_self i
      · exact Nat.lt_succ_of_lt (hbest b hb)
    exact Nat.lt_of_lt_of_eq (ih (hnext _)) (by simp; omega)

theorem nearest_lt (h : centroids ≠ []) : nearest centroids p < centroids.length := by
  have hpos := List.length_pos_iff.mpr h
  exact Nat.lt_of_lt_of_eq (nearestFrom_lt nofun) (by omega)

theorem lt_of_mem_assign (points : List (Point α)) (h : centroids ≠ []) :
    ∀ l ∈ assign points centroids, l < centroids.length := by
  intro l hl
  obtain ⟨p, -, rfl⟩ := List.mem_map.mp hl
  exact nearest_lt h

theorem length_update : (update points labels centroids).length = centroids.length := List.length_mapIdx

theorem length_seeds (h : points ≠ []) (k : Nat) : (seeds points k).length = k := by
  have hpos := List.length_pos_iff.mpr h
  rw [seeds, List.filterMap_length_eq_length.mpr, List.length_range]
  intro i _
  simp only [List.getElem?_toArray, isSome_getElem?, List.length_mergeSort]
  omega

/-- A step keeps the number of centroids, and labels points with them. -/
theorem descend_divides (hk : 0 < k) (hcentroids : centroids.length = k)
    (hlength : labels.length = points.length) (hlabels : ∀ l ∈ labels, l < k) :
    let d := descend points n centroids labels
    d.2.length = points.length ∧ d.1.length = k ∧ ∀ l ∈ d.2, l < k := by
  induction n generalizing centroids labels with
  | zero => exact ⟨hlength, hcentroids, hlabels⟩
  | succ n ih =>
    have hmoved : (update points labels centroids).length = k := length_update.trans hcentroids
    rw [descend]
    split
    · exact ⟨hlength, hmoved, hlabels⟩
    · refine ih hmoved (List.length_map _) ?_
      rw [← hmoved]
      exact lt_of_mem_assign points (List.length_pos_iff.mp (hmoved ▸ hk))

theorem fit_isDivision (h : points ≠ []) (k : Nat) :
    (fit points k).IsDivision points.length (max 1 (min k points.length)) := by
  have hk : 0 < max 1 (min k points.length) := Nat.lt_of_lt_of_le Nat.one_pos (Nat.le_max_left ..)
  have hseeds := length_seeds h (max 1 (min k points.length))
  have hlabels := lt_of_mem_assign points (List.length_pos_iff.mp (hseeds.symm ▸ hk))
  rw [hseeds] at hlabels
  rw [fit, if_neg (by simpa using h)]
  obtain ⟨hlength, hcentroids, hlt⟩ := descend_divides (n := maxSteps) hk hseeds (List.length_map _) hlabels
  exact ⟨hlength, hcentroids, hlt⟩

/-- More clusters than points are as many as points. -/
theorem fit_of_length_le_one (h : points.length ≤ 1) (hk : 1 ≤ k) : fit points k = fit points 1 := by
  have hclamp : max 1 (min k points.length) = max 1 (min 1 points.length) := by omega
  rw [fit, fit, hclamp]

end KMeans

namespace ClusterModel

variable {search : ClusterSearch} {samples : List (Sample α)} {m : ClusterModel α} {size limit : Nat}

/-- Every sample has one of the regimes, which count their samples; several tell their shares. -/
structure IsDivision (m : ClusterModel α) (size limit : Nat) : Prop where
  length_labels : m.labels.length = size
  label_lt : ∀ l ∈ m.labels, l < m.clusters.length
  size_eq : ∀ i c, m.clusters[i]? = some c → c.size = m.labels.count i
  one_le : 1 ≤ m.clusters.length
  le_limit : m.clusters.length ≤ limit
  probability : ∀ c ∈ m.clusters,
    c.probability = if 1 < m.clusters.length then some ((c.size : α) / (size : α)) else none

theorem IsDivision.sum_sizes (h : m.IsDivision size limit) : (m.clusters.map (·.size)).sum = size := by
  have hsizes : m.clusters.map (·.size) = (List.range m.clusters.length).map m.labels.count := by
    refine List.ext_getElem (by simp) fun i hi hi' => ?_
    rw [List.length_map] at hi
    rw [List.getElem_map, List.getElem_map, List.getElem_range]
    exact h.size_eq i _ (List.getElem?_eq_getElem hi)
  rw [hsizes, sum_count_range h.label_lt, h.length_labels]

theorem IsDivision.trends_ne_nil {samples : List (Sample α)} (h : m.IsDivision samples.length limit)
    (hne : samples ≠ []) : m.trends samples ≠ [] := by
  unfold trends
  split
  · exact List.cons_ne_nil _ _
  · obtain ⟨l, hl⟩ := List.exists_mem_of_length_pos (h.length_labels ▸ List.length_pos_iff.mpr hne)
    have hlt := h.label_lt l hl
    have hsize : 0 < m.clusters[l].size := by
      rw [h.size_eq l _ (List.getElem?_eq_getElem hlt)]
      exact List.count_pos_iff.mpr hl
    apply mt (congrArg (List.map Trend.key))
    apply List.ne_nil_of_mem
    apply Trend.mem_keys_distinct.mpr
    apply List.mem_map_of_mem
    exact List.mem_filterMap.mpr ⟨_, List.mem_mapIdx.mpr ⟨l, hlt, rfl⟩, if_pos hsize⟩

theorem single_isDivision (fit : Fit α) (size : Nat) (curve : List α) (hlimit : 1 ≤ limit) :
    (single fit size curve).IsDivision size limit where
  length_labels := List.length_replicate
  label_lt l hl := by
    rw [List.eq_of_mem_replicate hl]
    exact Nat.one_pos
  size_eq i c hc := by
    rw [single, List.getElem?_singleton] at hc
    split at hc
    · rename_i hi
      cases hc
      rw [single, hi, List.count_replicate_self]
    · cases hc
  one_le := Nat.le_refl 1
  le_limit := hlimit
  probability c hc := by
    rw [List.mem_singleton.mp hc]
    rfl

theorem ofFit_isDivision {fit : Fit α} {k : Nat} (h : fit.IsDivision size k) (hk : 2 ≤ k) (hlimit : k ≤ limit)
    (curve : List α) : (ofFit fit size curve).IsDivision size limit := by
  have hcount : (ofFit fit size curve).clusters.length = k :=
    List.length_mapIdx.trans h.length_centroids
  refine ⟨h.length_labels, fun l hl => hcount ▸ h.label_lt l hl, ?_, by omega, by omega, ?_⟩
  · intro i c hc
    simp only [ofFit, List.getElem?_mapIdx, Option.map_eq_some_iff] at hc
    obtain ⟨-, -, rfl⟩ := hc
    rfl
  · intro c hc
    rw [if_pos (by omega)]
    simp only [ofFit, List.mem_mapIdx] at hc
    obtain ⟨-, -, rfl⟩ := hc
    rfl

/-- What `find` can end with: one regime, or a fit of several to two samples or more. -/
theorem find_cases [Scalar.Cancels α] (search : ClusterSearch) (samples : List (Sample α)) :
    let ps := points search.smoothing samples
    (∃ curve, find search samples = single (KMeans.fit ps 1) ps.length curve) ∨
      ∃ k curve, 2 ≤ k ∧ k ≤ max search.maxClusters 1 ∧ 2 ≤ ps.length ∧
        find search samples = ofFit (KMeans.fit ps k) ps.length curve := by
  intro ps
  unfold find
  extract_lets size most base fits curve count
  split
  · exact Or.inl ⟨_, rfl⟩
  have hmost : 1 ≤ most := Nat.le_max_right ..
  have hfits : fits = (List.range' 1 most).map (KMeans.fit ps) := by
    obtain ⟨n, hn⟩ : ∃ n, most = n + 1 := ⟨most - 1, by omega⟩
    simp only [fits, hn, List.range'_succ, List.map_cons, Nat.add_sub_cancel]
    rfl
  split
  · exact Or.inl ⟨_, rfl⟩
  rename_i hcount
  split
  · rename_i chosen hchosen
    have hlength : 2 ≤ ps.length := by
      by_contra hfew
      have hlevel : curve = List.replicate most base.wcss := by
        simp only [curve, hfits, List.map_map]
        refine List.eq_replicate_iff.mpr ⟨by simp, fun w hw => ?_⟩
        obtain ⟨k, hk, rfl⟩ := List.mem_map.mp hw
        have hone : 1 ≤ k := (List.mem_range'_1.mp hk).1
        exact congrArg Fit.wcss (KMeans.fit_of_length_le_one (by omega) hone)
      have hone : count = 1 := (congrArg Knee.clusterCount hlevel).trans (Knee.clusterCount_replicate ..)
      exact hcount (Nat.le_of_eq hone)
    rw [hfits, List.getElem?_map, Option.map_eq_some_iff] at hchosen
    obtain ⟨k, hk, rfl⟩ := hchosen
    obtain ⟨hlt, rfl⟩ := List.getElem?_eq_some_iff.mp hk
    rw [List.length_range'] at hlt
    rw [List.getElem_range']
    exact Or.inr ⟨_, _, by omega, by omega, hlength, rfl⟩
  · exact Or.inl ⟨_, rfl⟩

theorem find_isDivision [Scalar.Cancels α] (search : ClusterSearch) (samples : List (Sample α)) :
    (find search samples).IsDivision samples.length (max search.maxClusters 1) := by
  have hpoints := length_points search.smoothing samples
  rcases find_cases search samples with ⟨curve, hfind⟩ | ⟨k, curve, hk, hlimit, htwo, hfind⟩
  · rw [hfind, hpoints]
    exact single_isDivision _ _ _ (Nat.le_max_right ..)
  · rw [hfind, ← hpoints]
    have hne := List.length_pos_iff.mp (Nat.lt_of_lt_of_le Nat.two_pos htwo)
    exact ofFit_isDivision (KMeans.fit_isDivision hne k) (by omega) (by omega) curve

end ClusterModel

end FleetSizing
