import FleetSizing.Calendar.TimeOfDay
import FleetSizing.Cluster.Model
import FleetSizing.Error
import FleetSizing.Json.Value
import FleetSizing.Sample

/-! Tunables of a run, and when the engine can run with them. -/
namespace FleetSizing

/-- Processors a candidate shape may have. -/
inductive Compatibility where
  | any
  /-- Intel and AMD replace each other, AWS designs only themselves. -/
  | onlyCompatible
  /-- The vendor and architecture of the current shape. -/
  | onlySame
  deriving DecidableEq, Repr, Inhabited

def Compatibility.all : List Compatibility := [.any, .onlyCompatible, .onlySame]

def Compatibility.name : Compatibility → String
  | any => "any" | onlyCompatible => "only_compatible" | onlySame => "only_same"

/-- Order of ranked candidates. -/
inductive Sorting where
  /-- By cpu, then memory. -/
  | size
  /-- By monthly price. -/
  | price
  deriving DecidableEq, Repr, Inhabited

def Sorting.all : List Sorting := [.size, .price]

def Sorting.name : Sorting → String
  | size => "size" | price => "price"

structure Settings (α : Type) where
  requiredColumns : List String
  /-- Step between samples where timestamps do not tell. -/
  recordStepMinutes : Nat
  /-- Least span of a series. -/
  minAllowedDays : Nat
  maxClusters : Nat
  minClusterSamples : Nat
  smoothingWindow : Nat
  /-- Cpu load above which a sample is active. -/
  activityThreshold : α
  minWindowMinutes : Nat
  mergeToleranceMinutes : Nat
  /-- Load a recommended shape should run at. -/
  targetUtilization : α
  maxRecommendedShapes : Nat
  forbidChangeSeries : Bool
  forbidChangeFamily : Bool
  compatibility : Compatibility
  sorting : Sorting
  /-- Tag that names the group of a resource. -/
  groupTagKey : String
  /-- Keys without a meaning here, kept as they are. -/
  additional : List (String × Json α)
  deriving BEq, Inhabited

/-- Why the engine cannot run with some settings. -/
inductive SettingsFault (α : Type) where
  | noRequiredColumns
  | stepDoesNotDivideDay (minutes : Nat)
  | noClusters
  | noSmoothing
  | thresholdOutOfRange (x : α)
  | targetOutOfRange (x : α)
  | windowOutOfRange (minutes : Nat)
  | noShapes

namespace SettingsFault

variable {α : Type} [Scalar α]

def detail : SettingsFault α → String
  | noRequiredColumns => "required_columns must not be empty"
  | stepDoesNotDivideDay n =>
    "record_step_minutes must divide a day, got " ++ Decimal.digitText n
  | noClusters => "max_clusters must be at least 1"
  | noSmoothing => "smoothing_window must be at least 1"
  | thresholdOutOfRange x => "activity_threshold must be within [0, 100), got " ++ Scalar.text x
  | targetOutOfRange x => "target_utilization must be within (0, 100], got " ++ Scalar.text x
  | windowOutOfRange n => "min_window_minutes must be within (0, 1440), got " ++ Decimal.digitText n
  | noShapes => "max_recommended_shapes must be at least 1"

def error (f : SettingsFault α) : EngineError := .configuration f.detail

end SettingsFault

namespace Settings

variable {α : Type} [Scalar α]

/-- What a document that says nothing stands for. -/
def default : Settings α where
  requiredColumns := standardColumns
  recordStepMinutes := 5
  minAllowedDays := 7
  maxClusters := 5
  minClusterSamples := 30
  smoothingWindow := 3
  activityThreshold := ((10 : Nat) : α)
  minWindowMinutes := 30
  mergeToleranceMinutes := 30
  targetUtilization := ((50 : Nat) : α)
  maxRecommendedShapes := 5
  forbidChangeSeries := false
  forbidChangeFamily := false
  compatibility := .onlyCompatible
  sorting := .size
  groupTagKey := "rightsizer:group"
  additional := []

/-- The first reason not to run with the settings. -/
def fault? (s : Settings α) : Option (SettingsFault α) :=
  let zero : α := ((0 : Nat) : α)
  let hundred : α := ((100 : Nat) : α)
  if s.requiredColumns.isEmpty then some .noRequiredColumns
  else if s.recordStepMinutes = 0 ∨ minutesPerDay % s.recordStepMinutes ≠ 0 then
    some (.stepDoesNotDivideDay s.recordStepMinutes)
  else if s.maxClusters = 0 then some .noClusters
  else if s.smoothingWindow = 0 then some .noSmoothing
  else if ¬ (zero ≤ s.activityThreshold ∧ s.activityThreshold < hundred) then
    some (.thresholdOutOfRange s.activityThreshold)
  else if ¬ (zero < s.targetUtilization ∧ s.targetUtilization ≤ hundred) then
    some (.targetOutOfRange s.targetUtilization)
  else if s.minWindowMinutes = 0 ∨ minutesPerDay ≤ s.minWindowMinutes then
    some (.windowOutOfRange s.minWindowMinutes)
  else if s.maxRecommendedShapes = 0 then some .noShapes
  else none

def validate (s : Settings α) : Except EngineError Unit :=
  match s.fault? with
  | some f => .error f.error
  | none => .ok ()

def clusterSearch (s : Settings α) : ClusterSearch :=
  ⟨s.maxClusters, s.minClusterSamples, s.smoothingWindow⟩

end Settings

end FleetSizing
