import FleetSizing.Proofs.Cluster.Descent
import Mathlib.Data.List.MinMax

/-! How many clusters a curve calls for: one, unless it bends and sags, and else as many as lead to the lowest
point of its sag. The regimes are those of the fit with that many clusters. -/
namespace FleetSizing

namespace Knee

variable {curve xs vs : List Rat} {a b x least range v : Rat} {n i : Nat} {best : Option (Nat × Rat)} {f : Nat → Rat}

/-- The second difference of a curve that is scaled to start at one. -/
def bend (curve : List Rat) (i : Nat) : Rat :=
  curve.getD i 0 / curve.getD 0 0 - 2 * (curve.getD (i + 1) 0 / curve.getD 0 0) +
    curve.getD (i + 2) 0 / curve.getD 0 0

def lowest (curve : List Rat) : Rat := curve.min?.getD 0

def highest (curve : List Rat) : Rat := curve.max?.getD 0

/-- How far the curve lies below the line from its start to its end, with both axes scaled to one. -/
def sag (curve : List Rat) (i : Nat) : Rat :=
  1 - (curve.getD i 0 - lowest curve) / (highest curve - lowest curve) -
    (i : Rat) / ((curve.length - 1 : Nat) : Rat)

/-- Why a curve calls for one cluster. -/
inductive Featureless (curve : List Rat) : Prop where
  | short (h : curve.length < 3)
  | low (h : curve.getD 0 0 ≤ Scalar.epsilon)
  | narrow (h : highest curve - lowest curve ≤ Scalar.epsilon)
  | straight (h : ∀ i, i + 2 < curve.length → bend curve i ≤ 1 / 2)
  | raised (h : ∀ i < curve.length, sag curve i ≤ 0)

theorem mem_secondDifferences : x ∈ secondDifferences xs ↔ ∃ i, i + 2 < xs.length ∧
    x = xs.getD i 0 - 2 * xs.getD (i + 1) 0 + xs.getD (i + 2) 0 := by
  induction xs with
  | nil => simp [secondDifferences]
  | cons a xs ih =>
    match xs, ih with
    | [], _ => simp [secondDifferences]
    | [b], _ => simp [secondDifferences]
    | b :: c :: rest, ih =>
      rw [secondDifferences, List.mem_cons, ih]
      constructor
      · rintro (rfl | ⟨i, hi, rfl⟩)
        · exact ⟨0, by simp, rfl⟩
        · exact ⟨i + 1, by simpa using hi, rfl⟩
      · rintro ⟨_ | i, hi, rfl⟩
        · exact Or.inl rfl
        · exact Or.inr ⟨i, by simpa using hi, rfl⟩

theorem foldl_greatest_le_iff :
    xs.foldl (fun m y => if y < m then m else y) a ≤ b ↔ a ≤ b ∧ ∀ x ∈ xs, x ≤ b := by
  induction xs generalizing a with
  | nil => simp
  | cons x xs ih =>
    rw [List.foldl_cons, ih, List.forall_mem_cons, ← and_assoc]
    refine and_congr_left fun _ => ?_
    split
    · rename_i hlt
      exact ⟨fun h => ⟨h, hlt.le.trans h⟩, And.left⟩
    · rename_i hle
      exact ⟨fun h => ⟨(not_lt.mp hle).trans h, h⟩, And.right⟩

theorem greatest?_le_iff : (∀ m, greatest? xs = some m → m ≤ b) ↔ ∀ x ∈ xs, x ≤ b := by
  cases xs with
  | nil => simp [greatest?]
  | cons x xs =>
    rw [List.forall_mem_cons, ← foldl_greatest_le_iff]
    constructor
    · exact fun h => h _ rfl
    · rintro h m hm
      cases hm
      exact h

theorem getD_map_div (curve : List Rat) (a : Rat) (i : Nat) :
    (curve.map (· / a)).getD i 0 = curve.getD i 0 / a := by
  rw [← zero_div a, List.getD_map, zero_div]

/-- The curve is flat if it starts at nothing, or if no second difference is large. -/
theorem flat_iff (curve : List Rat) : (∀ peak, maxSecondDifference? curve = some peak → peak ≤ flatness) ↔
    curve.getD 0 0 ≤ Scalar.epsilon ∨ ∀ i, i + 2 < curve.length → bend curve i ≤ 1 / 2 := by
  cases curve with
  | nil => simp [maxSecondDifference?, Scalar.epsilon_pos.le]
  | cons first rest =>
    have hpeak : maxSecondDifference? (first :: rest) = if first ≤ Scalar.epsilon then none
        else greatest? (secondDifferences ((first :: rest).map (· / first))) := rfl
    rw [hpeak, List.getD_cons_zero]
    split
    · rename_i hlow
      simp [hlow]
    · rename_i hlow
      have hbends : (∀ x ∈ secondDifferences ((first :: rest).map (· / first)), x ≤ flatness) ↔
          ∀ i, i + 2 < (first :: rest).length → bend (first :: rest) i ≤ 1 / 2 := by
        simp only [mem_secondDifferences, forall_exists_index, and_imp, List.length_map, getD_map_div]
        constructor
        · exact fun h i hi => h _ i hi rfl
        · rintro h _ i hi rfl
          exact h i hi
      rw [or_iff_right hlow, ← hbends, greatest?_le_iff]

theorem clusterCount_of_flat (h : ∀ peak, maxSecondDifference? curve = some peak → peak ≤ flatness) :
    clusterCount curve = 1 := by
  rw [clusterCount]
  cases hpeak : maxSecondDifference? curve with
  | none => rfl
  | some peak => simp [h peak hpeak]

theorem clusterCount_of_not_flat
    (h : ¬ ∀ peak, maxSecondDifference? curve = some peak → peak ≤ flatness) :
    clusterCount curve = ((knee? curve).map (· + 1)).getD 1 := by
  rw [clusterCount]
  cases hpeak : maxSecondDifference? curve with
  | none => simp [hpeak] at h
  | some peak =>
    have hlarge : ¬ peak ≤ flatness := by simpa [hpeak] using h
    simp [hlarge]

/-- What the scan of a curve has found in its first places. -/
def Scanned (f : Nat → Rat) (i : Nat) : Option (Nat × Rat) → Prop
  | none => ∀ j < i, f j ≤ 0
  | some (b, d) => IsLeast (Peaks f i) b ∧ f b = d ∧ 0 < d

theorem scanned_steepest (hf : ∀ j v, vs[j]? = some v → f (i + j) = drop least range n (i + j) v)
    (h : Scanned f i best) : Scanned f (i + vs.length) (steepest least range n i best vs) := by
  induction vs generalizing i best with
  | nil => exact h
  | cons v vs ih =>
    have hfirst : f i = drop least range n i v := hf 0 v rfl
    have hrest : ∀ j v, vs[j]? = some v → f (i + 1 + j) = drop least range n (i + 1 + j) v := by
      intro j v' hv
      rw [Nat.add_right_comm]
      exact hf (j + 1) v' hv
    rw [steepest, List.length_cons, ← Nat.add_assoc, Nat.add_right_comm]
    apply ih hrest
    rw [← hfirst]
    rcases best with _ | ⟨b, d⟩
    · by_cases hpos : 0 < f i
      · simp only [Option.map_none, Option.getD_none, Nat.cast_zero, hpos, if_true]
        exact ⟨isLeast_peaks_succ_of_lt fun j hj => (h j hj).trans_lt hpos, rfl, hpos⟩
      · simp only [Option.map_none, Option.getD_none, Nat.cast_zero, hpos, if_false]
        intro j hj
        rcases Nat.lt_succ_iff_lt_or_eq.mp hj with hlt | rfl
        · exact h j hlt
        · exact not_lt.mp hpos
    · obtain ⟨hbest, rfl, hpos⟩ := h
      by_cases hlt : f b < f i
      · simp only [Option.map_some, Option.getD_some, hlt, if_true]
        exact ⟨isLeast_peaks_succ_of_lt fun j hj => (hbest.1.2 j hj).trans_lt hlt, rfl, hpos.trans hlt⟩
      · simp only [Option.map_some, Option.getD_some, hlt, if_false]
        exact ⟨isLeast_peaks_succ_of_le hbest (not_lt.mp hlt), rfl, hpos⟩

theorem knee?_eq (hlength : 3 ≤ curve.length) : knee? curve =
    if highest curve - lowest curve ≤ Scalar.epsilon then none
    else (steepest (lowest curve) (highest curve - lowest curve) curve.length 0 none curve).map (·.1) := by
  match curve, hlength with
  | a :: b :: c :: rest, _ =>
    have hmost : (b :: c :: rest).foldl Scalar.larger a = highest (a :: b :: c :: rest) := by
      rw [highest, List.max?_cons', Option.getD_some, funext₂ Scalar.larger_eq_max]
    have hleast : (b :: c :: rest).foldl Scalar.smaller a = lowest (a :: b :: c :: rest) := by
      rw [lowest, List.min?_cons', Option.getD_some, funext₂ Scalar.smaller_eq_min]
    rw [knee?, hmost, hleast]

theorem drop_eq_sag {j : Nat} (h : curve[j]? = some v) :
    drop (lowest curve) (highest curve - lowest curve) curve.length j v = sag curve j := by
  rw [drop, sag, List.getD_eq_getElem?_getD, h, Option.getD_some, Nat.cast_one]

/-- The knee is the first place of the greatest sag, if the curve sags at all. -/
theorem scanned_knee (hlength : 3 ≤ curve.length)
    (hwide : ¬ highest curve - lowest curve ≤ Scalar.epsilon) :
    ∃ best, knee? curve = best.map (·.1) ∧ Scanned (sag curve) curve.length best := by
  refine ⟨_, (knee?_eq hlength).trans (if_neg hwide), ?_⟩
  have hdrop : ∀ j v, curve[j]? = some v → sag curve (0 + j) =
      drop (lowest curve) (highest curve - lowest curve) curve.length (0 + j) v := by
    intro j v hv
    rw [Nat.zero_add, drop_eq_sag hv]
  have hnothing : Scanned (sag curve) 0 none := fun j hj => absurd hj (Nat.not_lt_zero j)
  have hscanned := scanned_steepest hdrop hnothing
  rwa [Nat.zero_add] at hscanned

theorem lowest_le (h : x ∈ curve) : lowest curve ≤ x := by
  obtain ⟨m, hm⟩ := List.isSome_min?_of_mem h |> Option.isSome_iff_exists.mp
  rw [lowest, hm, Option.getD_some]
  exact (List.min?_eq_some_iff.mp hm).2 x h

/-- The curve ends on the line. -/
theorem sag_last_le (hlength : 3 ≤ curve.length)
    (hwide : ¬ highest curve - lowest curve ≤ Scalar.epsilon) : sag curve (curve.length - 1) ≤ 0 := by
  have hlast : curve.length - 1 < curve.length := by omega
  have hvalue : lowest curve ≤ curve.getD (curve.length - 1) 0 := by
    rw [List.getD_eq_getElem _ _ hlast]
    exact lowest_le (List.getElem_mem hlast)
  have hwidth : 0 < highest curve - lowest curve := Scalar.epsilon_pos.trans (not_le.mp hwide)
  have hone : ((curve.length - 1 : Nat) : Rat) / ((curve.length - 1 : Nat) : Rat) = 1 :=
    div_self (Nat.cast_ne_zero.mpr (by omega))
  have hscaled := div_nonneg (sub_nonneg.mpr hvalue) hwidth.le
  rw [sag, hone]
  linarith

theorem clusterCount_of_featureless (h : Featureless curve) : clusterCount curve = 1 := by
  by_cases hflat : ∀ peak, maxSecondDifference? curve = some peak → peak ≤ flatness
  · exact clusterCount_of_flat hflat
  have hbent := mt (flat_iff curve).mpr hflat
  have hlength : 3 ≤ curve.length := by
    by_contra hshort
    exact hbent (Or.inr fun i hi => by omega)
  rw [clusterCount_of_not_flat hflat]
  cases h with
  | short hshort => omega
  | low hlow => exact absurd (Or.inl hlow) hbent
  | narrow hnarrow => rw [knee?_eq hlength, if_pos hnarrow]; rfl
  | straight hstraight => exact absurd (Or.inr hstraight) hbent
  | raised hraised =>
    by_cases hwide : highest curve - lowest curve ≤ Scalar.epsilon
    · rw [knee?_eq hlength, if_pos hwide]
      rfl
    obtain ⟨best, hknee, hscanned⟩ := scanned_knee hlength hwide
    rcases best with _ | ⟨i, d⟩
    · rw [hknee]
      rfl
    · obtain ⟨hpeak, rfl, hpos⟩ := hscanned
      exact absurd (hraised i hpeak.1.1) (not_le.mpr hpos)

/-- What a curve with features calls for. -/
structure AtKnee (curve : List Rat) (i : Nat) : Prop where
  peak : IsLeast (Peaks (sag curve) curve.length) i
  pos : 0 < sag curve i
  lt_last : i < curve.length - 1

theorem clusterCount_of_not_featureless (h : ¬ Featureless curve) :
    ∃ i, clusterCount curve = i + 1 ∧ AtKnee curve i := by
  have hlength : 3 ≤ curve.length := Nat.not_lt.mp fun hshort => h (.short hshort)
  have hwide : ¬ highest curve - lowest curve ≤ Scalar.epsilon := fun hnarrow => h (.narrow hnarrow)
  have hflat : ¬ ∀ peak, maxSecondDifference? curve = some peak → peak ≤ flatness := by
    rw [flat_iff]
    rintro (hlow | hstraight)
    · exact h (.low hlow)
    · exact h (.straight hstraight)
  obtain ⟨best, hknee, hscanned⟩ := scanned_knee hlength hwide
  rcases best with _ | ⟨i, d⟩
  · exact absurd (.raised hscanned) h
  · obtain ⟨hpeak, rfl, hpos⟩ := hscanned
    refine ⟨i, ?_, hpeak, hpos, ?_⟩
    · rw [clusterCount_of_not_flat hflat, hknee]
      rfl
    · have hne : i ≠ curve.length - 1 := by
        rintro rfl
        exact absurd (sag_last_le hlength hwide) (not_le.mpr hpos)
      have hlt := hpeak.1.1
      omega

theorem one_le_clusterCount (curve : List Rat) : 1 ≤ clusterCount curve := by
  by_cases h : Featureless curve
  · exact (clusterCount_of_featureless h).ge
  · obtain ⟨i, hcount, -⟩ := clusterCount_of_not_featureless h
    omega

theorem clusterCount_le_max (curve : List Rat) : clusterCount curve ≤ max (curve.length - 1) 1 := by
  by_cases h : Featureless curve
  · rw [clusterCount_of_featureless h]
    exact Nat.le_max_right ..
  · obtain ⟨i, hcount, hknee⟩ := clusterCount_of_not_featureless h
    have hlt := hknee.lt_last
    omega

end Knee

namespace ClusterModel

open Knee

variable {search : ClusterSearch} {samples : List (Sample Rat)} {k : Nat}

/-- The fits to compare, with one cluster, with two and so on. -/
def tries (search : ClusterSearch) (samples : List (Sample Rat)) : List (Fit Rat) :=
  (List.range' 1 (max search.maxClusters 1)).map (KMeans.fit (points search.smoothing samples))

def triedCurve (search : ClusterSearch) (samples : List (Sample Rat)) : List Rat :=
  (tries search samples).map (·.wcss)

/-- Too few samples, no choice of numbers, or no spread: there is nothing to compare. -/
def Uniform (search : ClusterSearch) (samples : List (Sample Rat)) : Prop :=
  (points search.smoothing samples).length < search.minSamples ∨ max search.maxClusters 1 = 1 ∨
    (KMeans.fit (points search.smoothing samples) 1).wcss ≤ Scalar.epsilon

theorem length_triedCurve (search : ClusterSearch) (samples : List (Sample Rat)) :
    (triedCurve search samples).length = max search.maxClusters 1 := by
  simp [triedCurve, tries]

theorem getElem?_tries {i : Nat} (h : i < max search.maxClusters 1) :
    (tries search samples)[i]? = some (KMeans.fit (points search.smoothing samples) (i + 1)) := by
  rw [tries, List.getElem?_map, List.getElem?_range' h, Option.map_some, Nat.one_mul, Nat.add_comm]

theorem getD_triedCurve {i : Nat} (h : i < max search.maxClusters 1) :
    (triedCurve search samples).getD i 0 = (KMeans.fit (points search.smoothing samples) (i + 1)).wcss := by
  rw [List.getD_eq_getElem?_getD, triedCurve, List.getElem?_map, getElem?_tries h]
  rfl

/-- There is a fit with as many clusters as the curve calls for. -/
theorem getElem?_tries_clusterCount (search : ClusterSearch) (samples : List (Sample Rat)) :
    (tries search samples)[clusterCount (triedCurve search samples) - 1]? =
      some (KMeans.fit (points search.smoothing samples) (clusterCount (triedCurve search samples))) := by
  have hone := one_le_clusterCount (triedCurve search samples)
  have hle := clusterCount_le_max (triedCurve search samples)
  rw [length_triedCurve] at hle
  rw [getElem?_tries (by omega), Nat.sub_add_cancel hone]

theorem find_of_not_uniform (h : ¬ Uniform search samples) : find search samples =
    let c := clusterCount (triedCurve search samples)
    let fit := KMeans.fit (points search.smoothing samples) c
    let size := (points search.smoothing samples).length
    if c = 1 then single fit size (triedCurve search samples) else ofFit fit size (triedCurve search samples) := by
  have htries : KMeans.fit (points search.smoothing samples) 1 ::
      (List.range' 2 (max search.maxClusters 1 - 1)).map (KMeans.fit (points search.smoothing samples)) =
        tries search samples := by
    obtain ⟨n, hn⟩ : ∃ n, max search.maxClusters 1 = n + 1 := ⟨max search.maxClusters 1 - 1, by omega⟩
    simp only [tries, hn, List.range'_succ, List.map_cons, Nat.add_sub_cancel]
  have hone := one_le_clusterCount (triedCurve search samples)
  have hcurve : (tries search samples).map (·.wcss) = triedCurve search samples := rfl
  have hmany : ¬ ((points search.smoothing samples).length < search.minSamples ∨ max search.maxClusters 1 = 1 ∨
    (KMeans.fit (points search.smoothing samples) 1).wcss ≤ Scalar.epsilon) := h
  simp only [find, htries, hcurve, getElem?_tries_clusterCount, if_neg hmany]
  by_cases hsingle : clusterCount (triedCurve search samples) = 1
  · rw [if_pos hsingle.le, if_pos hsingle, hsingle]
  · rw [if_neg (by omega), if_neg hsingle]

theorem points_ne_nil_of_not_uniform (h : ¬ Uniform search samples) : points search.smoothing samples ≠ [] := by
  intro hnil
  refine h (Or.inr (Or.inr ?_))
  rw [hnil]
  exact Scalar.epsilon_pos.le

/-- A curve that has come down to zero stays there, and sags less from place to place. -/
theorem clusterCount_le_length (h : ¬ Uniform search samples) :
    clusterCount (triedCurve search samples) ≤ (points search.smoothing samples).length := by
  have hne := points_ne_nil_of_not_uniform h
  have hpos := List.length_pos_iff.mpr hne
  by_cases hplain : Featureless (triedCurve search samples)
  · rw [clusterCount_of_featureless hplain]
    exact hpos
  obtain ⟨i, hcount, hknee⟩ := clusterCount_of_not_featureless hplain
  have hlast := hknee.lt_last
  rw [length_triedCurve] at hlast
  rw [hcount]
  by_contra hlate
  obtain ⟨j, hj⟩ : ∃ j, (points search.smoothing samples).length = j + 1 :=
    ⟨(points search.smoothing samples).length - 1, by omega⟩
  have hzero : ∀ n, j ≤ n → n < max search.maxClusters 1 → (triedCurve search samples).getD n 0 = 0 := by
    intro n hjn hn
    rw [getD_triedCurve hn]
    exact KMeans.wcss_fit_eq_zero hne (by omega)
  have hwidth : (0 : Rat) < (((triedCurve search samples).length - 1 : Nat) : Rat) := by
    rw [length_triedCurve, Nat.cast_pos]
    omega
  have hgreatest := hknee.peak.1.2 j (by rw [length_triedCurve]; omega)
  rw [sag, sag, hzero j le_rfl (by omega), hzero i (by omega) (by omega), sub_le_sub_iff_left,
    div_le_div_iff_of_pos_right hwidth, Nat.cast_le] at hgreatest
  omega

theorem length_clusters_find (h : ¬ Uniform search samples) :
    (find search samples).clusters.length = clusterCount (triedCurve search samples) := by
  have hone := one_le_clusterCount (triedCurve search samples)
  have hle := clusterCount_le_length h
  rw [find_of_not_uniform h]
  simp only
  split
  · rename_i hsingle
    rw [hsingle]
    rfl
  · have hdivision := KMeans.fit_isDivision (points_ne_nil_of_not_uniform h)
      (clusterCount (triedCurve search samples))
    rw [ofFit, List.length_mapIdx, hdivision.length_centroids]
    omega

/-- A curve without features calls for one cluster, any other for as many as lead to the first place of its
greatest sag. Fits are tried for so many clusters, and the regimes are those of the fit with that many. -/
theorem find_at_knee :
    (∀ curve : List Rat,
      (Featureless curve → clusterCount curve = 1) ∧
      (¬ Featureless curve → IsLeast (Peaks (sag curve) curve.length) (clusterCount curve - 1)) ∧
      1 ≤ clusterCount curve ∧ clusterCount curve ≤ max (curve.length - 1) 1) ∧
    ∀ (search : ClusterSearch) (samples : List (Sample Rat)),
      let c := clusterCount (triedCurve search samples)
      let fit := KMeans.fit (points search.smoothing samples) c
      let size := (points search.smoothing samples).length
      (tries search samples)[c - 1]? = some fit ∧
        (¬ Uniform search samples → (find search samples).clusters.length = c ∧ find search samples =
          if c = 1 then single fit size (triedCurve search samples)
          else ofFit fit size (triedCurve search samples)) := by
  refine ⟨fun curve => ⟨clusterCount_of_featureless, fun h => ?_, one_le_clusterCount curve,
    clusterCount_le_max curve⟩, fun search samples => ⟨getElem?_tries_clusterCount search samples, fun h =>
    ⟨length_clusters_find h, find_of_not_uniform h⟩⟩⟩
  obtain ⟨i, hcount, hknee⟩ := clusterCount_of_not_featureless h
  rw [hcount]
  exact hknee.peak

end ClusterModel

namespace ClusterModel

open Knee

/-! Two loads far apart, and room for three clusters. -/
namespace Apart

def search : ClusterSearch := ⟨3, 2, 1⟩

def samples : List (Sample Rat) := [10, 90].map fun load => ⟨"i-1", "m5.large", 0, load, load, 0, 0, 0⟩

theorem points_samples : points search.smoothing samples = [⟨10, 10⟩, ⟨90, 90⟩] := by
  have hsmooth : Stats.movingAverage 1 [(10 : Rat), 90] = [10, 90] := by decide +kernel
  change List.zipWith Point.mk (Stats.movingAverage 1 [10, 90]) (Stats.movingAverage 1 [10, 90]) = _
  rw [hsmooth]
  rfl

theorem mergeSort_points : ([⟨10, 10⟩, ⟨90, 90⟩] : List (Point Rat)).mergeSort
    (fun a b => ¬ b.cpu + b.memory < a.cpu + a.memory) = [⟨10, 10⟩, ⟨90, 90⟩] :=
  List.mergeSort_of_pairwise (by decide +kernel)

theorem triedCurve_samples : triedCurve search samples = [6400, 0, 0] := by
  have hrange : List.range' 1 (max search.maxClusters 1) = [1, 2, 3] := rfl
  simp only [triedCurve, tries, hrange, List.map_cons, List.map_nil, points_samples, KMeans.fit,
    KMeans.seeds, mergeSort_points]
  decide +kernel

theorem clusterCount_triedCurve : clusterCount (triedCurve search samples) = 2 := by
  rw [triedCurve_samples]
  decide +kernel

theorem not_featureless : ¬ Featureless (triedCurve search samples) := by
  intro h
  have hone := clusterCount_of_featureless h
  rw [clusterCount_triedCurve] at hone
  cases hone

theorem not_uniform : ¬ Uniform search samples := by
  have hspread : (KMeans.fit (points search.smoothing samples) 1).wcss = 6400 := by
    rw [← getD_triedCurve (i := 0) (by decide), triedCurve_samples]
    rfl
  rw [Uniform, hspread, points_samples]
  decide +kernel

end Apart

theorem find_at_knee_apart : ¬ Featureless (triedCurve Apart.search Apart.samples) ∧
    IsLeast (Peaks (sag (triedCurve Apart.search Apart.samples)) 3) 1 ∧
    ¬ Uniform Apart.search Apart.samples ∧ (find Apart.search Apart.samples).clusters.length = 2 := by
  obtain ⟨hcurves, hfinds⟩ := find_at_knee
  obtain ⟨-, hpeak, -⟩ := hcurves (triedCurve Apart.search Apart.samples)
  obtain ⟨-, hfind⟩ := hfinds Apart.search Apart.samples
  have hleast := hpeak Apart.not_featureless
  obtain ⟨hcount, -⟩ := hfind Apart.not_uniform
  rw [Apart.clusterCount_triedCurve] at hleast hcount
  exact ⟨Apart.not_featureless, hleast, Apart.not_uniform, hcount⟩

end ClusterModel

end FleetSizing
