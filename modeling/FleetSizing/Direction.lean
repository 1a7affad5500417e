import FleetSizing.Scalar

/-! Buckets of utilization. -/
namespace FleetSizing

/-- Where the threshold of a metric lies: at most 20, below 30, up to 70, below 80, or beyond. -/
inductive Direction where
  | strongDown | down | steady | up | strongUp
  deriving DecidableEq, Repr, Inhabited

namespace Direction

def all : List Direction := [strongDown, down, steady, up, strongUp]

def name : Direction → String
  | strongDown => "StrongDown" | down => "Down" | steady => "Steady" | up => "Up"
  | strongUp => "StrongUp"

/-- Twice the signed weight. -/
def doubleWeight : Direction → Int
  | strongDown => -2 | down => -1 | steady => 0 | up => 1 | strongUp => 2

def isUp (d : Direction) : Bool := 0 < d.doubleWeight

def isDown (d : Direction) : Bool := d.doubleWeight < 0

variable {α : Type} [Scalar α]

def ofThreshold (t : α) : Direction :=
  if t ≤ (20 : Nat) then strongDown
  else if t < (30 : Nat) then down
  else if t ≤ (70 : Nat) then steady
  else if t < (80 : Nat) then up
  else strongUp

def weight (d : Direction) : α := (d.doubleWeight : α) / (2 : Nat)

/-- The direction of a weight, up to the resolution of a double. -/
def ofWeight? (w : α) : Option Direction :=
  all.find? fun d => Scalar.abs (d.weight - w) < Scalar.epsilon

end Direction

end FleetSizing
