import FleetSizing.Window

/-! Windows of consecutive weekdays with similar times, folded into one. -/
namespace FleetSizing

/-- A window that collects weekdays, and the probabilities of its members. -/
structure WindowGroup (α : Type) where
  window : Window α
  probabilities : List α
  deriving Inhabited

/-- Minutes between two times of day, the short way round. -/
def minuteDistance (a b : Nat) : Nat :=
  let d := max a b - min a b
  min d (1440 - d)

namespace WindowGroup

variable {α : Type}

/-- Opens and closes within a tolerance of the group's first window. -/
def isSimilar (tolerance : Nat) (g : WindowGroup α) (w : Window α) : Bool :=
  minuteDistance g.window.start.minute w.start.minute ≤ tolerance &&
    minuteDistance g.window.stop.minute w.stop.minute ≤ tolerance

/-- A day that comes after the group's last weekday, and is not in the group. -/
def isFollowedBy (g : WindowGroup α) (day : Weekday) : Bool :=
  match g.window.weekdays.getLast? with
  | some last => last.next == day && !g.window.weekdays.contains day
  | none => false

def admits (tolerance : Nat) (g : WindowGroup α) (w : Window α) (day : Weekday) : Bool :=
  g.isSimilar tolerance w && g.isFollowedBy day

def add (g : WindowGroup α) (day : Weekday) (probability : α) : WindowGroup α :=
  { window := { g.window with weekdays := g.window.weekdays ++ [day] }
    probabilities := g.probabilities ++ [probability] }

/-- Puts a window of one weekday into the first group that admits it, any other at the end. -/
def place (tolerance : Nat) (w : Window α) : List (WindowGroup α) → List (WindowGroup α)
  | [] => [⟨w, [w.probability]⟩]
  | g :: gs =>
    match w.weekdays with
    | [day] => if g.admits tolerance w day then g.add day w.probability :: gs
               else g :: place tolerance w gs
    | _ => g :: place tolerance w gs

variable [Scalar α]

/-- The first window's times on all weekdays, with the mean probability. -/
def merged (g : WindowGroup α) : Window α :=
  Window.make g.window.weekdays g.window.start g.window.stop
    (Scalar.sum g.probabilities / (g.probabilities.length : α))

end WindowGroup

namespace Window

variable {α : Type}

/-- Place of a window's first weekday, windows without one first. -/
def firstDay (w : Window α) : Nat :=
  match w.weekdays.head? with
  | none => 0
  | some d => d.index + 1

/-- Ordered by first weekday, then by start. -/
def opensBefore (a b : Window α) : Bool :=
  a.firstDay < b.firstDay || (a.firstDay == b.firstDay && a.start.minute ≤ b.start.minute)

/-- Groups windows in the order of their opening. -/
def groups (tolerance : Nat) (windows : List (Window α)) : List (WindowGroup α) :=
  (windows.mergeSort opensBefore).foldl (fun gs w => WindowGroup.place tolerance w gs) []

variable [Scalar α]

/-- Folds windows of consecutive weekdays whose times lie within a tolerance of each other. -/
def mergeAdjacent (tolerance : Nat) (windows : List (Window α)) : List (Window α) :=
  (groups tolerance windows).map WindowGroup.merged

end Window

end FleetSizing
