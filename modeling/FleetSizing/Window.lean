import FleetSizing.Calendar.Instant
import FleetSizing.Scalar

/-! Weekly windows in which a resource runs. -/
namespace FleetSizing

/-- Opens on each of its weekdays; a stop that is not after the start lies on the following day. -/
structure Window (α : Type) where
  weekdays : List Weekday
  start : TimeOfDay
  stop : TimeOfDay
  probability : α
  deriving BEq, Inhabited

namespace Window

/-- The given days, each once and Monday first. -/
def orderedDays (days : List Weekday) : List Weekday := Weekday.all.filter (days.contains ·)

variable {α : Type}

/-- Covers whole days. -/
def isFullDay (w : Window α) : Bool := w.start == .midnight && w.stop == .dayEnd

/-- Covers the whole week. -/
def isAlwaysRun (w : Window α) : Bool := w.weekdays.length == 7 && w.isFullDay

/-- Length in minutes, on through midnight if need be. -/
def duration (w : Window α) : Nat :=
  if w.start.minute < w.stop.minute then w.stop.minute - w.start.minute
  else minutesPerDay - w.start.minute + w.stop.minute

/-- Minutes a week, at most all of them where no weekday is listed twice. -/
def weeklyMinutes (w : Window α) : Nat := w.duration * w.weekdays.length

/-- Whether the resource runs in a minute of a weekday. -/
def contains (w : Window α) (day : Weekday) (minute : Nat) : Bool :=
  if w.start.minute < w.stop.minute then
    w.weekdays.contains day && w.start.minute ≤ minute && minute < w.stop.minute
  else if w.start.minute ≤ minute then w.weekdays.contains day
  else minute < w.stop.minute && w.weekdays.contains day.prev

/-- Whether the resource runs at an instant. -/
def containsInstant (w : Window α) (t : Instant) : Bool := w.contains t.day.weekday t.time.minute

variable [Scalar α]

/-- A window with ordered weekdays and a probability between zero and one. -/
def make (days : List Weekday) (start stop : TimeOfDay) (probability : α) : Window α :=
  ⟨orderedDays days, start, stop, Scalar.clamp (0 : Nat) (1 : Nat) probability⟩

/-- The one window of a resource that is never stopped. -/
def alwaysRun : Window α := make Weekday.all .midnight .dayEnd (1 : Nat)

/-- Share of the week. -/
def coverage (w : Window α) : α :=
  (w.weekdays.length : α) / (7 : Nat) * ((w.duration : α) * (60 : Nat) / (86400 : Nat))

end Window

end FleetSizing
