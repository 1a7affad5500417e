import FleetSizing.Scalar

/-! Deterministic k-means over points of cpu and memory load. -/
namespace FleetSizing

structure Point (α : Type) where
  cpu : α
  memory : α
  deriving BEq, Inhabited

/-- A division of points into clusters. -/
structure Fit (α : Type) where
  labels : List Nat
  centroids : List (Point α)
  /-- Within-cluster sum of squares. -/
  wcss : α
  deriving Inhabited

namespace KMeans

variable {α : Type} [Scalar α]

@[specialize]
def distance (a b : Point α) : α :=
  (a.cpu - b.cpu) * (a.cpu - b.cpu) + (a.memory - b.memory) * (a.memory - b.memory)

/-- Index of the first centroid at the least distance seen so far or among those given. -/
@[specialize]
def nearestFrom (p : Point α) : List (Point α) → Nat → Option (Nat × α) → Nat
  | [], _, best => (best.map (·.1)).getD 0
  | c :: cs, i, best =>
    let d := distance p c
    let better := match best with
      | none => Scalar.isBounded d
      | some (_, least) => decide (d < least)
    nearestFrom p cs (i + 1) (if better then some (i, d) else best)

/-- Index of the nearest centroid, the lowest of several. -/
@[specialize]
def nearest (centroids : List (Point α)) (p : Point α) : Nat := nearestFrom p centroids 0 none

@[specialize]
def assign (points : List (Point α)) (centroids : List (Point α)) : List Nat :=
  points.map (nearest centroids)

omit [Scalar α] in
def members (points : List (Point α)) (labels : List Nat) (i : Nat) : List (Point α) :=
  (points.zip labels).filterMap fun (p, l) => if l = i then some p else none

/-- Mean of the points; the given point if there are none. -/
@[specialize]
def meanOr (old : Point α) (points : List (Point α)) : Point α :=
  if points.isEmpty then old
  else
    let zero : α := ((0 : Nat) : α)
    let total := points.foldl (fun s p => (⟨s.cpu + p.cpu, s.memory + p.memory⟩ : Point α)) ⟨zero, zero⟩
    let n : α := (points.length : α)
    ⟨total.cpu / n, total.memory / n⟩

/-- Every centroid moves to the mean of its points; one without points stays. -/
@[specialize]
def update (points : List (Point α)) (labels : List Nat) (centroids : List (Point α)) :
    List (Point α) :=
  centroids.mapIdx fun i c => meanOr c (members points labels i)

/-- Moves centroids and assigns points until no label changes, at most so many times. -/
@[specialize]
def descend (points : List (Point α)) :
    Nat → List (Point α) → List Nat → List (Point α) × List Nat
  | 0, centroids, labels => (centroids, labels)
  | n + 1, centroids, labels =>
    let moved := update points labels centroids
    let next := assign points moved
    if next == labels then (moved, labels) else descend points n moved next

/-- Evenly spaced quantiles of the points ordered by total load; equal loads keep their order. -/
@[specialize]
def seeds (points : List (Point α)) (k : Nat) : List (Point α) :=
  let ordered := (points.mergeSort fun a b => ¬ b.cpu + b.memory < a.cpu + a.memory).toArray
  (List.range k).filterMap fun i : Nat =>
    let rank := Scalar.natPart (((i : α) + Scalar.ratio 1 2) / (k : α) * (points.length : α))
    ordered[min rank (points.length - 1)]?

@[specialize]
def squares (points : List (Point α)) (centroids : List (Point α)) (labels : List Nat) : α :=
  Scalar.sum ((points.zip labels).filterMap fun (p, l) => (centroids[l]?).map (distance p))

/-- Limit of descent steps. -/
def maxSteps : Nat := 100

/-- Fits `k` clusters, at least one and at most one for each point. -/
@[specialize]
def fit (points : List (Point α)) (k : Nat) : Fit α :=
  if points.isEmpty then ⟨[], [], (0 : Nat)⟩
  else
    let start := seeds points (max 1 (min k points.length))
    let (centroids, labels) := descend points maxSteps start (assign points start)
    ⟨labels, centroids, squares points centroids labels⟩

end KMeans

end FleetSizing
