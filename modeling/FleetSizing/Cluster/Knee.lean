import FleetSizing.Scalar

/-! How many clusters a falling curve of sums of squares calls for. -/
namespace FleetSizing.Knee

variable {α : Type} [Scalar α]

def secondDifferences : List α → List α
  | a :: b :: c :: rest => (a - (2 : Nat) * b + c) :: secondDifferences (b :: c :: rest)
  | _ => []

/-- The greatest of some values, the last of several. -/
def greatest? : List α → Option α
  | [] => none
  | x :: xs => some (xs.foldl (fun m y => if y < m then m else y) x)

/-- Largest second difference of the curve scaled to start at one; none if it starts at zero or is too
short. -/
def maxSecondDifference? (curve : List α) : Option α := do
  let first ← curve.head?
  if first ≤ Scalar.epsilon then none
  else greatest? (secondDifferences (curve.map (· / first)))

/-- The curve is flat at or below this second difference. -/
def flatness : α := Scalar.ratio 1 2

/-- How far a value lies below the line from the start to the end of the curve, both scaled to one. -/
def drop (least range : α) (n i : Nat) (value : α) : α :=
  ((1 : Nat) : α) - (value - least) / range - (i : α) / ((n - 1 : Nat) : α)

/-- The first index with the greatest positive drop. -/
def steepest (least range : α) (n : Nat) : Nat → Option (Nat × α) → List α → Option (Nat × α)
  | _, best, [] => best
  | i, best, v :: vs =>
    let d := drop least range n i v
    let bar := (best.map (·.2)).getD ((0 : Nat) : α)
    steepest least range n (i + 1) (if bar < d then some (i, d) else best) vs

/-- Index of the knee. -/
def knee? : List α → Option Nat
  | a :: b :: c :: rest =>
    let curve := a :: b :: c :: rest
    let most := (b :: c :: rest).foldl Scalar.larger a
    let least := (b :: c :: rest).foldl Scalar.smaller a
    if most - least ≤ Scalar.epsilon then none
    else (steepest least (most - least) curve.length 0 none curve).map (·.1)
  | _ => none

/-- Number of clusters for a curve that starts with one cluster. -/
def clusterCount (curve : List α) : Nat :=
  let flat := match maxSecondDifference? curve with
    | some peak => decide (peak ≤ flatness)
    | none => true
  if flat then 1 else ((knee? curve).map (· + 1)).getD 1

end FleetSizing.Knee
