import FleetSizing.Shape
import FleetSizing.Trend

/-! Capacity a shape has to offer for a trend. -/
namespace FleetSizing

/-- Least capacity, and how a shape has to relate to the current one. -/
structure Requirement (α : Type) where
  action : Action
  cpu : α
  memory : α
  network : Option α
  iops : Option α
  /-- The current shape itself may be kept. -/
  allowCurrent : Bool
  current : Shape α
  deriving Inhabited

namespace Requirement

variable {α : Type} [Scalar α]

/-- Capacity that brings a metric to the target utilization; a steady metric never asks for more than
there is. -/
def desired (capacity : α) (trend : MetricTrend α) (target : α) : α :=
  if trend.excluded then ((0 : Nat) : α)
  else
    let needed := capacity * Scalar.larger trend.threshold ((0 : Nat) : α) / target
    if trend.effective = .steady then Scalar.smaller needed capacity else needed

/-- Network and disk matter only where they ask for more. -/
def ifUp (capacity : α) (trend : MetricTrend α) (target : α) : Option α :=
  if trend.effective.isUp then some (desired capacity trend target) else none

def forTrend (trend : Trend α) (current : Shape α) (action : Action) (target : α) : Requirement α :=
  { action
    cpu := desired current.cpu trend.cpu target
    memory := desired current.memory trend.memory target
    network := ifUp current.network trend.network target
    iops := ifUp current.iops trend.iops target
    allowCurrent := false
    current }

/-- For one part of a split, which may keep the current shape. -/
def forSplitPart (trend : Trend α) (current : Shape α) (target : α) : Requirement α :=
  { forTrend trend current (trend.resizeAction?.getD .noAction) target with allowCurrent := true }

variable (r : Requirement α)

/-- Meets every minimum. -/
def fits (s : Shape α) : Bool :=
  r.cpu ≤ s.cpu && r.memory ≤ s.memory && r.network.all (· ≤ s.network) && r.iops.all (· ≤ s.iops)

/-- Differs from the current shape in the way the action says. -/
def related (s : Shape α) : Bool :=
  match r.action with
  | .scaleUp => r.current.cpu < s.cpu || r.current.memory < s.memory
  | .scaleDown | .shutdown =>
    s.cpu ≤ r.current.cpu && s.memory ≤ r.current.memory &&
      (s.cpu < r.current.cpu || s.memory < r.current.memory)
  | _ => true

def satisfiedBy (s : Shape α) : Bool :=
  if s.name = r.current.name then r.allowCurrent && r.fits s else r.fits s && r.related s

end Requirement

end FleetSizing
