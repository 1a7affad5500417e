import FleetSizing.Action
import FleetSizing.Direction
import FleetSizing.Sample
import FleetSizing.Stats

/-! Trends of the metrics of one load regime, and the resize they ask for. -/
namespace FleetSizing

inductive Metric where
  | cpu | memory | network | iops
  deriving DecidableEq, Repr, Inhabited

namespace Metric

def all : List Metric := [cpu, memory, network, iops]

def name : Metric → String
  | cpu => "cpu" | memory => "memory" | network => "net_output" | iops => "disk_iops"

def reading {α : Type} : Metric → Sample α → α
  | cpu, s => s.cpu
  | memory, s => s.memory
  | network, s => s.network
  | iops, s => s.iops

end Metric

/-- Summary of one metric. -/
structure MetricTrend (α : Type) where
  metric : Metric
  mean : α
  /-- The 90th percentile. -/
  threshold : α
  /-- Percentiles 0 to 99. -/
  percentiles : List α
  direction : Direction
  /-- The metric has no baseline and takes no part in decisions. -/
  excluded : Bool
  deriving BEq, Inhabited

namespace MetricTrend

variable {α : Type}

/-- The direction that takes part in decisions. -/
def effective (t : MetricTrend α) : Direction := if t.excluded then .steady else t.direction

variable [Scalar α]

/-- Marks a reading without a baseline. -/
def noBaseline : α := ((-1 : Int) : α)

def ofValues (metric : Metric) (values : List α) : MetricTrend α :=
  let mean := Stats.mean values
  if Scalar.abs (mean - noBaseline) < Scalar.epsilon then
    ⟨metric, mean, noBaseline, [], .steady, true⟩
  else
    let sorted := (Stats.sorted values).toArray
    let threshold := Stats.percentileOfSorted sorted ((90 : Nat) : α)
    ⟨metric, mean, threshold, Stats.ladder sorted, .ofThreshold threshold, false⟩

/-- The trend with another threshold and the direction that goes with it. -/
def rebaseline (t : MetricTrend α) (threshold : α) : MetricTrend α :=
  { t with threshold, direction := .ofThreshold threshold }

end MetricTrend

/-- Trends of every metric for one load regime. -/
structure Trend (α : Type) where
  cpu : MetricTrend α
  memory : MetricTrend α
  network : MetricTrend α
  iops : MetricTrend α
  /-- Share of time spent in the regime, when there are several. -/
  probability : Option α := none
  /-- Mean cpu and memory load of the regime. -/
  centroid : Option (α × α) := none
  deriving BEq, Inhabited

namespace Trend

variable {α : Type}

/-- Network or disk pressure, which asks for a bigger shape. -/
def ioScaleUp (t : Trend α) : Bool := t.network.effective.isUp || t.iops.effective.isUp

/-- Under-used network or disk never asks for a resize on its own. -/
def requiresResize (t : Trend α) : Bool :=
  t.cpu.effective != .steady || t.memory.effective != .steady || t.ioScaleUp

/-- The directions by which trends are told apart. -/
def key (t : Trend α) : List Direction :=
  [t.cpu.effective, t.memory.effective, t.network.effective, t.iops.effective]

/-- The signals point in conflicting directions. -/
def isAmbiguous (t : Trend α) : Bool :=
  let cpu := t.cpu.effective
  let memory := t.memory.effective
  (cpu.isUp && memory.isDown) || (cpu.isDown && memory.isUp) ||
    (t.ioScaleUp && !cpu.isUp && !memory.isUp)

/-- The resize one regime asks for. -/
def resizeAction? (t : Trend α) : Option Action :=
  if t.requiresResize then
    let cpu := t.cpu.effective
    let memory := t.memory.effective
    if !cpu.isUp && !memory.isUp && !t.ioScaleUp then some .scaleDown
    else if cpu.isUp && !memory.isDown then some .scaleUp
    else some .changeShape
  else none

variable [Scalar α]

def ofSamples (samples : List (Sample α)) : Trend α :=
  let column (m : Metric) := MetricTrend.ofValues m (samples.map m.reading)
  { cpu := column .cpu, memory := column .memory, network := column .network, iops := column .iops }

def withRegime (t : Trend α) (probability : α) (centroid : α × α) : Trend α :=
  { t with probability := some probability, centroid := some centroid }

/-- Threshold the lower of cpu and memory takes in a fallback. -/
def fallbackThreshold : α := ((60 : Nat) : α)

/-- The trend an ambiguous one falls back to: network and disk no longer count, and the lower of cpu
and memory is taken as steady. -/
def fallback? (t : Trend α) : Option (Trend α) :=
  if t.isAmbiguous then
    let cpu := t.cpu.effective.doubleWeight
    let memory := t.memory.effective.doubleWeight
    some { t with
      network := { t.network with excluded := true }
      iops := { t.iops with excluded := true }
      cpu := if cpu < memory then t.cpu.rebaseline fallbackThreshold else t.cpu
      memory := if memory < cpu then t.memory.rebaseline fallbackThreshold else t.memory }
  else none

/-- Adds the probability of a duplicate to a kept trend, if both have one. -/
def absorb (kept duplicate : Trend α) : Trend α :=
  match kept.probability, duplicate.probability with
  | some a, some b => { kept with probability := some (a + b) }
  | _, _ => kept

/-- Puts a trend at the end, or into the kept trend with its directions. -/
def keep (t : Trend α) : List (Trend α) → List (Trend α)
  | [] => [t]
  | k :: ks => if k.key = t.key then k.absorb t :: ks else k :: keep t ks

/-- The first trend of each tuple of directions. -/
def distinct (trends : List (Trend α)) : List (Trend α) :=
  trends.foldl (fun kept t => keep t kept) []

omit [Scalar α] in
/-- Several regimes are always split. -/
def actionOf? : List (Trend α) → Option Action
  | [] => none
  | [t] => t.resizeAction?
  | _ => some .split

end Trend

end FleetSizing
