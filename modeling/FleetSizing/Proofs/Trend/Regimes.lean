import FleetSizing.Cluster.Model
import FleetSizing.Proofs.Stats.MovingAverage
import Mathlib.Data.List.Induction
import Mathlib.Data.List.Nodup

/-! Trends of load regimes: each comes from samples of the resource, and no two share their directions. -/
namespace FleetSizing

variable {α : Type} [Scalar α]

namespace KMeans

variable {points centroids : List (Point α)} {labels : List Nat} {n : Nat}

theorem length_descend (h : labels.length = points.length) :
    (descend points n centroids labels).2.length = points.length := by
  induction n generalizing centroids labels with
  | zero => exact h
  | succ n ih =>
    rw [descend]
    split
    · exact h
    · exact ih (List.length_map _)

theorem length_labels_fit (points : List (Point α)) (k : Nat) :
    (fit points k).labels.length = points.length := by
  unfold fit
  split
  · rename_i hempty
    rw [List.isEmpty_iff.mp hempty]
    rfl
  · exact length_descend (List.length_map _)

end KMeans

namespace Trend

variable {t : Trend α} {ts kept : List (Trend α)} {k : List Direction}

theorem key_absorb (kept duplicate : Trend α) : (kept.absorb duplicate).key = kept.key := by
  unfold absorb
  split <;> rfl

/-- The directions of a trend are new, or were kept before. -/
theorem keys_keep : (keep t kept).map key =
    if t.key ∈ kept.map key then kept.map key else kept.map key ++ [t.key] := by
  induction kept with
  | nil => rfl
  | cons u us ih =>
    rw [keep]
    by_cases hsame : u.key = t.key
    · rw [if_pos hsame]
      simp [key_absorb, hsame]
    · rw [if_neg hsame, List.map_cons, ih]
      by_cases hmem : t.key ∈ us.map key
      · rw [if_pos hmem, if_pos (List.mem_map.mpr ?_)]
        · rfl
        · obtain ⟨v, hv, hkey⟩ := List.mem_map.mp hmem
          exact ⟨v, List.mem_cons_of_mem u hv, hkey⟩
      · have hnew : t.key ∉ (u :: us).map key := by
          rw [List.map_cons, List.mem_cons, not_or]
          exact ⟨Ne.symm hsame, hmem⟩
        rw [if_neg hmem, if_neg hnew]
        rfl

theorem nodup_keys_keep (h : (kept.map key).Nodup) : ((keep t kept).map key).Nodup := by
  rw [keys_keep]
  split
  · exact h
  · rename_i hnew
    exact List.nodup_append'.mpr ⟨h, List.nodup_singleton _, by simpa using hnew⟩

theorem mem_keys_keep : k ∈ (keep t kept).map key ↔ k ∈ kept.map key ∨ k = t.key := by
  rw [keys_keep]
  split
  · rename_i hmem
    constructor
    · exact Or.inl
    · rintro (hk | rfl)
      · exact hk
      · exact hmem
  · rw [List.mem_append, List.mem_singleton]

theorem distinct_append_singleton : distinct (ts ++ [t]) = keep t (distinct ts) := by
  rw [distinct, List.foldl_append]
  rfl

theorem nodup_keys_distinct (ts : List (Trend α)) : ((distinct ts).map key).Nodup := by
  induction ts using List.reverseRecOn with
  | nil => exact List.nodup_nil
  | append_singleton ts t ih =>
    rw [distinct_append_singleton]
    exact nodup_keys_keep ih

theorem mem_keys_distinct : k ∈ (distinct ts).map key ↔ k ∈ ts.map key := by
  induction ts using List.reverseRecOn with
  | nil => rfl
  | append_singleton ts t ih =>
    rw [distinct_append_singleton, mem_keys_keep, ih, List.map_append, List.mem_append,
      List.map_singleton, List.mem_singleton]

end Trend

namespace ClusterModel

variable {search : ClusterSearch} {samples : List (Sample α)} {m : ClusterModel α} {i : Nat}
  {s : Sample α} {t : Trend α}

theorem length_points (smoothing : Nat) (samples : List (Sample α)) :
    (points smoothing samples).length = samples.length := by
  simp [points, Stats.length_movingAverage]

/-- Every sample has a label, and every regime with a size is some sample's label. -/
structure Labelled (m : ClusterModel α) (size : Nat) : Prop where
  length : m.labels.length = size
  mem : ∀ i c, m.clusters[i]? = some c → 0 < c.size → i ∈ m.labels

theorem labelled_single (fit : Fit α) (size : Nat) (curve : List α) :
    (single fit size curve).Labelled size := by
  refine ⟨List.length_replicate, ?_⟩
  intro i c hc hsize
  rw [single, List.getElem?_singleton] at hc
  split at hc
  · rename_i hfirst
    obtain rfl := Option.some.inj hc
    exact List.mem_replicate.mpr ⟨Nat.ne_of_gt hsize, hfirst⟩
  · cases hc

theorem labelled_ofFit {fit : Fit α} {size : Nat} (h : fit.labels.length = size) (curve : List α) :
    (ofFit fit size curve).Labelled size := by
  refine ⟨h, ?_⟩
  intro i c hc hsize
  simp only [ofFit, List.getElem?_mapIdx, Option.map_eq_some_iff] at hc
  obtain ⟨centroid, -, rfl⟩ := hc
  obtain ⟨label, hlabel, hi⟩ := List.countP_pos_iff.mp hsize
  rwa [← beq_iff_eq.mp hi]

theorem labelled_find (search : ClusterSearch) (samples : List (Sample α)) :
    (find search samples).Labelled samples.length := by
  have hpoints := length_points search.smoothing samples
  unfold find
  simp only [hpoints]
  split
  · exact labelled_single ..
  · split
    · exact labelled_single ..
    · split
      · rename_i chosen hchosen
        apply labelled_ofFit
        rcases List.mem_cons.mp (List.mem_of_getElem? hchosen) with rfl | hmem
        · rw [KMeans.length_labels_fit, hpoints]
        · obtain ⟨k, -, rfl⟩ := List.mem_map.mp hmem
          rw [KMeans.length_labels_fit, hpoints]
      · exact labelled_single ..

omit [Scalar α] in
theorem mem_samplesOf (h : s ∈ m.samplesOf samples i) : s ∈ samples := by
  simp only [samplesOf, List.mem_filterMap] at h
  obtain ⟨⟨s', l⟩, hzip, hlabel⟩ := h
  simp only at hlabel
  split at hlabel
  · obtain rfl := Option.some.inj hlabel
    exact (List.of_mem_zip hzip).1
  · cases hlabel

omit [Scalar α] in
theorem samplesOf_ne_nil (hlength : m.labels.length = samples.length) (hi : i ∈ m.labels) :
    m.samplesOf samples i ≠ [] := by
  obtain ⟨j, hj, hlabel⟩ := List.mem_iff_getElem.mp hi
  have hzip : (samples[j], i) ∈ samples.zip m.labels := by
    rw [← hlabel, ← List.getElem_zip (h := by simp; omega)]
    exact List.getElem_mem _
  apply List.ne_nil_of_mem (a := samples[j])
  exact List.mem_filterMap.mpr ⟨_, hzip, if_pos rfl⟩

/-- A trend has the directions of some of the samples. -/
theorem exists_part (hm : m.Labelled samples.length) (hne : samples ≠ [])
    (ht : t ∈ m.trends samples) :
    ∃ part : List (Sample α), part ≠ [] ∧ part ⊆ samples ∧ t.key = (Trend.ofSamples part).key := by
  unfold trends at ht
  split at ht
  · obtain rfl := List.mem_singleton.mp ht
    exact ⟨samples, hne, List.Subset.refl _, rfl⟩
  · have hkey := Trend.mem_keys_distinct.mp (List.mem_map_of_mem ht)
    simp only [List.mem_map, List.mem_filterMap, List.mem_mapIdx, id_eq] at hkey
    obtain ⟨u, ⟨_, ⟨i, hi, rfl⟩, hu⟩, hkey⟩ := hkey
    split at hu
    · rename_i hsize
      obtain rfl := Option.some.inj hu
      have hlabel := hm.mem i _ (List.getElem?_eq_getElem hi) hsize
      exact ⟨_, samplesOf_ne_nil hm.length hlabel, fun s hs => mem_samplesOf hs, hkey.symm⟩
    · cases hu

/-- A short series is one regime. -/
theorem trends_of_few (h : samples.length < search.minSamples) :
    (find search samples).trends samples = [Trend.ofSamples samples] := by
  have hone : (find search samples).clusters.length ≤ 1 := by
    unfold find
    simp only [length_points]
    rw [if_pos (Or.inl h)]
    exact Nat.le_refl 1
  rw [trends, if_pos hone]

theorem nodup_keys_trends (m : ClusterModel α) (samples : List (Sample α)) :
    ((m.trends samples).map Trend.key).Nodup := by
  unfold trends
  split
  · exact List.nodup_singleton _
  · exact Trend.nodup_keys_distinct _

end ClusterModel

end FleetSizing
