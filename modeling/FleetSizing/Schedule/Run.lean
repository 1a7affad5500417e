import FleetSizing.Schedule.Grid
import FleetSizing.Window

/-! Runs of active slots, joined across midnight, and the daily windows they make. -/
namespace FleetSizing

/-- Consecutive active slots of a weekday, the stop excluded. -/
structure Run where
  day : Weekday
  start : Nat
  stop : Nat
  /-- Slots of the next day the run goes on for. -/
  tail : Nat := 0
  deriving DecidableEq, Repr, Inhabited

namespace Run

/-- Maximal runs among the slots from `slot` on; `opened` is where a run in progress started. -/
def scan (day : Weekday) : Nat → Option Nat → List Bool → List Run
  | _, none, [] => []
  | slot, some start, [] => [{ day, start, stop := slot }]
  | slot, none, active :: rest => scan day (slot + 1) (if active then some slot else none) rest
  | slot, some start, active :: rest =>
    if active then scan day (slot + 1) (some start) rest
    else { day, start, stop := slot } :: scan day (slot + 1) none rest

/-- The runs of a day, in order. -/
def ofDay (day : Weekday) (active : List Bool) : List Run := scan day 0 none active

/-- Slots at the start of the next day that a day's last run takes over: both runs touch midnight,
neither covers its whole day, and the next day's run closes before this one opens. -/
def takenOver? (slots : Nat) (runs : Weekday → List Run) (day : Weekday) : Option Nat :=
  match (runs day).getLast?, (runs day.next).head? with
  | some last, some head =>
    if last.stop = slots ∧ last.start ≠ 0 ∧ head.start = 0 ∧ head.stop < last.start ∧
        head.stop ≠ slots then
      some head.stop
    else none
  | _, _ => none

/-- Gives the last run a tail. -/
def withTail (tail : Nat) : List Run → List Run
  | [] => []
  | [r] => [{ r with tail }]
  | r :: rs => r :: withTail tail rs

/-- The runs of a day once runs are joined across midnight. -/
def joined (slots : Nat) (runs : Weekday → List Run) (day : Weekday) : List Run :=
  let kept := if (takenOver? slots runs day.prev).isSome then (runs day).tail else runs day
  match takenOver? slots runs day with
  | some tail => withTail tail kept
  | none => kept

/-- Every run of the week. -/
def joinMidnight (slots : Nat) (runs : Weekday → List Run) : List Run :=
  Weekday.all.flatMap (joined slots runs)

variable {α : Type} [Scalar α]

/-- Activity of the slots of a run, in order. -/
def activities (g : Grid) (r : Run) : List α :=
  (List.range' r.start (r.stop - r.start)).map (g.activity α r.day) ++
    (List.range r.tail).map (g.activity α r.day.next)

/-- The window that opens and closes with a run, as probable as its slots are active on average. -/
def window (g : Grid) (r : Run) : Window α :=
  let shares : List α := r.activities g
  let probability := Scalar.sum shares / ((max shares.length 1 : Nat) : α)
  if r.start = 0 ∧ r.stop = g.slots then Window.make [r.day] .midnight .dayEnd probability
  else
    let stop := if 0 < r.tail then r.tail * g.step else min (r.stop * g.step) minutesPerDay
    Window.make [r.day] (.ofMinute (r.start * g.step)) (.ofMinute stop) probability

end Run

namespace Grid

variable (α : Type) [Scalar α]

/-- The runs of active slots of the week, joined across midnight. -/
def runs (g : Grid) : List Run :=
  let mask := g.idleMask α
  Run.joinMidnight g.slots fun day => Run.ofDay day (g.activeSlots mask day)

/-- Lasts at least so long, and is at least as likely as not. -/
def keepsWindow (minMinutes : Nat) (w : Window α) : Bool :=
  w.start != w.stop && (Scalar.ratio 1 2 ≤ w.probability : Bool) &&
    (w.isAlwaysRun || minMinutes ≤ w.duration)

/-- One window for every likely run that is long enough. -/
def dailyWindows (g : Grid) (minMinutes : Nat) : List (Window α) :=
  ((g.runs α).map (Run.window g)).filter (keepsWindow α minMinutes)

end Grid

end FleetSizing
