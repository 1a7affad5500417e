import FleetSizing.Cluster.KMeans
import FleetSizing.Cluster.Knee
import FleetSizing.Trend

/-! Load regimes of a resource. -/
namespace FleetSizing

/-- One load regime. -/
structure Cluster (α : Type) where
  /-- Mean cpu and memory load, to two decimal places. -/
  centroid : α × α
  size : Nat
  /-- Share of the samples, when there are several regimes. -/
  probability : Option α
  deriving Inhabited

/-- Samples divided into load regimes. -/
structure ClusterModel (α : Type) where
  /-- Index of the regime of each sample. -/
  labels : List Nat
  clusters : List (Cluster α)
  /-- Sum of squares for one cluster, for two, and so on as far as tried. -/
  curve : List α
  deriving Inhabited

/-- How the number of regimes is sought. -/
structure ClusterSearch where
  maxClusters : Nat
  /-- Fewer samples form one regime. -/
  minSamples : Nat
  smoothing : Nat
  deriving DecidableEq, Repr

namespace ClusterModel

variable {α : Type} [Scalar α]

/-- Smoothed cpu and memory loads. -/
def points (smoothing : Nat) (samples : List (Sample α)) : List (Point α) :=
  let smooth (xs : List α) := Stats.movingAverage smoothing xs
  List.zipWith Point.mk (smooth (samples.map (·.cpu))) (smooth (samples.map (·.memory)))

def roundedCentroid (p : Point α) : α × α := (Scalar.round2 p.cpu, Scalar.round2 p.memory)

/-- All samples in one regime. -/
def single (fit : Fit α) (size : Nat) (curve : List α) : ClusterModel α :=
  let zero : α := ((0 : Nat) : α)
  { labels := List.replicate size 0
    clusters := [⟨(fit.centroids.head?.map roundedCentroid).getD (zero, zero), size, none⟩]
    curve }

/-- A regime for each centroid of a fit. -/
def ofFit (fit : Fit α) (size : Nat) (curve : List α) : ClusterModel α :=
  { labels := fit.labels
    clusters := fit.centroids.mapIdx fun i c =>
      let n := fit.labels.countP (· == i)
      ⟨roundedCentroid c, n, some ((n : α) / (size : α))⟩
    curve }

/-- Finds the regimes of samples in time order. -/
@[specialize]
def find (search : ClusterSearch) (samples : List (Sample α)) : ClusterModel α :=
  let ps := points search.smoothing samples
  let size := ps.length
  let maxClusters := max search.maxClusters 1
  let base := KMeans.fit ps 1
  if size < search.minSamples ∨ maxClusters = 1 ∨ base.wcss ≤ Scalar.epsilon then
    single base size [base.wcss]
  else
    let fits := base :: (List.range' 2 (maxClusters - 1)).map (KMeans.fit ps)
    let curve := fits.map (·.wcss)
    let count := Knee.clusterCount curve
    if count ≤ 1 then single base size curve
    else
      match fits[count - 1]? with
      | some chosen => ofFit chosen size curve
      | none => single base size curve

omit [Scalar α] in
def count (m : ClusterModel α) : Nat := m.clusters.length

omit [Scalar α] in
/-- The samples of one regime. -/
def samplesOf (m : ClusterModel α) (samples : List (Sample α)) (i : Nat) : List (Sample α) :=
  (samples.zip m.labels).filterMap fun (s, l) => if l = i then some s else none

/-- The trend of each regime, one for each tuple of directions. -/
def trends (m : ClusterModel α) (samples : List (Sample α)) : List (Trend α) :=
  if m.clusters.length ≤ 1 then [Trend.ofSamples samples]
  else
    let trendOf (i : Nat) (c : Cluster α) : Option (Trend α) :=
      if 0 < c.size then
        some ((Trend.ofSamples (m.samplesOf samples i)).withRegime
          (c.probability.getD ((0 : Nat) : α)) c.centroid)
      else none
    Trend.distinct ((m.clusters.mapIdx trendOf).filterMap id)

end ClusterModel

end FleetSizing
