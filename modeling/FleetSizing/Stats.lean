import FleetSizing.Scalar

/-! Descriptive statistics of readings. -/
namespace FleetSizing.Stats

variable {α : Type} [Scalar α]

/-- Zero for no values. -/
def mean (xs : List α) : α :=
  if xs.isEmpty then (0 : Nat) else Scalar.sum xs / (xs.length : α)

def sorted (xs : List α) : List α := xs.mergeSort (fun a b => ¬ b < a)

/-- Position a percentage asks for among `n` sorted values. -/
def rank (n : Nat) (p : α) : α :=
  Scalar.clamp ((0 : Nat) : α) ((100 : Nat) : α) p / (100 : Nat) * ((n - 1 : Nat) : α)

/-- The last whole position not after a rank. -/
def lowerRank (n : Nat) (p : α) : Nat := Scalar.natPart (rank n p)

/-- The first whole position not before a rank. -/
def upperRank (n : Nat) (p : α) : Nat :=
  let lower := lowerRank n p
  if (lower : α) < rank n p then lower + 1 else lower

/-- Interpolates between the two positions around a rank. -/
def percentileOfSorted (xs : Array α) (p : α) : α :=
  match xs.size with
  | 0 => (0 : Nat)
  | 1 => xs.getD 0 (0 : Nat)
  | n =>
    let lower := lowerRank n p
    let a := xs.getD lower (0 : Nat)
    let b := xs.getD (upperRank n p) (0 : Nat)
    a + (b - a) * (rank n p - (lower : α))

def percentile (xs : List α) (p : α) : α := percentileOfSorted (sorted xs).toArray p

/-- Percentiles 0 to 99 of sorted values. -/
def ladder (xs : Array α) : List α := (List.range 100).map fun p : Nat => percentileOfSorted xs (p : α)

/-- Means over a running sum. `seen` values have been summed, the last `window` of them remain in
`sum`, and `leaving` starts with the one that drops out next. -/
def runningMeans (window : Nat) : Nat → α → List α → List α → List α
  | _, _, _, [] => []
  | seen, sum, leaving, x :: xs =>
    let entered := sum + x
    let (sum, leaving) :=
      if window ≤ seen then (entered - leaving.headD (0 : Nat), leaving.tail) else (entered, leaving)
    sum / ((min (seen + 1) window : Nat) : α) :: runningMeans window (seen + 1) sum leaving xs

/-- Trailing means over a window; the first values average over what there is. -/
def movingAverage (window : Nat) (xs : List α) : List α :=
  runningMeans (max window 1) 0 (0 : Nat) xs xs

/-- The upper median. -/
def median? (xs : List Int) : Option Int := (xs.mergeSort (· ≤ ·))[xs.length / 2]?

end FleetSizing.Stats
