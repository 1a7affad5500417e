import FleetSizing.Powers
import FleetSizing.Schedule.Merge
import FleetSizing.Schedule.Run
import FleetSizing.Settings

/-! The weekly schedule that a series of samples calls for. -/
namespace FleetSizing

/-- What the activity of a resource calls for. -/
inductive Schedule (α : Type) where
  /-- Active around the clock. -/
  | alwaysRun
  | windows (ws : List (Window α))
  /-- Never active. -/
  | idle
  deriving BEq, Inhabited

namespace Schedule

variable {α : Type}

/-- Whether whole-day windows cover every day of the week. -/
def coversWeek (ws : List (Window α)) : Bool :=
  Weekday.all.all fun d => (ws.filter Window.isFullDay).any (·.weekdays.contains d)

def ofWindows (ws : List (Window α)) : Schedule α :=
  if ws.isEmpty then .idle else if coversWeek ws then .alwaysRun else .windows ws

def isCustom : Schedule α → Bool
  | .windows _ => true
  | _ => false

def isIdle : Schedule α → Bool
  | .idle => true
  | _ => false

/-- Whether some window contains the instant of a sample. -/
def covers (ws : List (Window α)) (s : Sample α) : Bool :=
  match Instant.ofSeconds? s.timestamp with
  | some t => ws.any (·.containsInstant t)
  | none => false

/-- Samples inside the windows; all of them if there are no custom windows. -/
def activeSamples (schedule : Schedule α) (samples : List (Sample α)) : List (Sample α) :=
  match schedule with
  | .windows ws => samples.filter (covers ws)
  | _ => samples

variable [Scalar α]

/-- Windows to report. -/
def reported : Schedule α → List (Window α)
  | .alwaysRun => [Window.alwaysRun]
  | .windows ws => ws
  | .idle => []

end Schedule

namespace Sampling

variable {α : Type}

/-- Differences of consecutive timestamps that are positive, in 64-bit arithmetic. -/
def gaps (samples : List (Sample α)) : List Int :=
  (List.zipWith (fun a b => wrapSigned 64 (b.timestamp - a.timestamp)) samples samples.tail).filter
    (0 < ·)

/-- Minutes between samples: the median gap if it is a minute or more, kept to 32 bits. -/
def stepMinutes (fallback : Nat) (samples : List (Sample α)) : Nat :=
  match Stats.median? (gaps samples) with
  | some s => if 60 ≤ s then (s / 60).toNat % pow2 32 else max fallback 1
  | none => max fallback 1

end Sampling

namespace Settings

variable {α : Type} [Scalar α]

def stepMinutes (s : Settings α) (samples : List (Sample α)) : Nat :=
  Sampling.stepMinutes s.recordStepMinutes samples

/-- One window for each run of active slots of the week. -/
def dailyWindows (s : Settings α) (samples : List (Sample α)) : List (Window α) :=
  (Grid.ofSamples samples (s.stepMinutes samples) s.activityThreshold).dailyWindows α
    s.minWindowMinutes

/-- The schedule once windows of adjacent days are folded. -/
def schedule (s : Settings α) (samples : List (Sample α)) : Schedule α :=
  .ofWindows (Window.mergeAdjacent s.mergeToleranceMinutes (s.dailyWindows samples))

end Settings

end FleetSizing
