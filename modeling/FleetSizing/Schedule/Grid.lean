import FleetSizing.Calendar.Instant
import FleetSizing.Sample
import FleetSizing.Stats

/-! Weekly activity: for every slot of the week, the weeks it was observed in and the weeks it was
active in. -/
namespace FleetSizing

/-- Weeks counted for one slot. -/
structure Cell where
  observed : Nat
  active : Nat
  deriving DecidableEq, Repr, Inhabited

/-- Slots of a day; the last one may be short. -/
def slotsPerDay (step : Nat) : Nat := (minutesPerDay + step - 1) / step

/-- Cells of a week, day by day from Monday on. -/
structure Grid where
  step : Nat
  cells : Array Cell
  step_pos : 0 < step
  size_cells : cells.size = 7 * slotsPerDay step

/-- One sample as the grid sees it. -/
structure Mark where
  position : Nat
  /-- Year and number of the week. -/
  week : Int × Int
  active : Bool
  deriving DecidableEq, Repr

/-- Distributes values over places; each place lists its values latest first. -/
def distribute {β : Type} (size : Nat) (values : List (Nat × β)) : Array (List β) :=
  values.foldl (fun acc (i, x) => acc.modify i (x :: ·)) (Array.replicate size [])

theorem size_foldl_modify {β : Type} (values : List (Nat × β)) (acc : Array (List β)) :
    (values.foldl (fun acc (i, x) => acc.modify i (x :: ·)) acc).size = acc.size := by
  induction values generalizing acc with
  | nil => rfl
  | cons v vs ih => simp [ih]

@[simp] theorem size_distribute {β : Type} (size : Nat) (values : List (Nat × β)) :
    (distribute size values).size = size := by
  simp [distribute, size_foldl_modify]

namespace Cell

/-- Distinct weeks among the marks of a slot. -/
def ofWeeks (marks : List ((Int × Int) × Bool)) : Cell :=
  { observed := (marks.map (·.1)).eraseDups.length
    active := ((marks.filter (·.2)).map (·.1)).eraseDups.length }

end Cell

namespace Grid

section

variable {α : Type} [Scalar α]

/-- Where a sample falls; none if its instant is outside the calendar. -/
def mark? (step : Nat) (threshold : α) (s : Sample α) : Option Mark :=
  (Instant.ofSeconds? s.timestamp).map fun t =>
    { position := t.day.weekday.index * slotsPerDay step + t.time.minute / step
      week := t.day.isoWeek
      active := threshold < s.cpu }

/-- Counts the weeks of every slot; a slot is active in a week with a load above the threshold. -/
def ofSamples (samples : List (Sample α)) (step : Nat) (threshold : α) : Grid :=
  let step' := max step 1
  let marks := samples.filterMap (mark? step' threshold)
  { step := step'
    cells := (distribute (7 * slotsPerDay step') (marks.map fun m => (m.position, m.week, m.active))).map
      Cell.ofWeeks
    step_pos := by omega
    size_cells := by simp }

end

variable (g : Grid)

def slots : Nat := slotsPerDay g.step

def cell (day : Weekday) (slot : Nat) : Cell := g.cells.getD (day.index * g.slots + slot) ⟨0, 0⟩

def hasActivity : Bool := g.cells.any (0 < ·.active)

section

variable (α : Type) [Scalar α]

/-- Share of the observed weeks in which a slot was active; one if it was never observed. -/
def activity (day : Weekday) (slot : Nat) : α :=
  let c := g.cell day slot
  if c.observed = 0 then ((1 : Nat) : α) else (c.active : α) / (c.observed : α)

/-- Most weeks any slot was observed in. -/
def weeks : Nat := g.cells.foldl (fun n c => max n c.observed) 0

/-- Activity at or below which a slot may be idle: the 25th percentile over the observed slots, and at
least half of the weeks. None if nothing was ever active. -/
def idleThreshold? : Option α :=
  if g.hasActivity then
    let counts := (g.cells.toList.filter (0 < ·.observed)).map fun c => (c.active : α)
    some (Scalar.larger (Stats.percentile counts ((25 : Nat) : α)) (Scalar.ratio 1 2 * (g.weeks : α)))
  else none

/-- A slot may be idle if its activity is low, and below three quarters of its observed weeks. If
nothing was ever active, every observed slot is idle. -/
def cellIsIdle (threshold : Option α) (c : Cell) : Bool :=
  match threshold with
  | none => 0 < c.observed
  | some t => (c.active : α) ≤ t && (c.active : α) < Scalar.ratio 3 4 * (c.observed : α)

/-- Which slots are idle, day by day; slots never observed are not. -/
def idleMask : Array Bool := g.cells.map (cellIsIdle α (g.idleThreshold? α))

/-- Which slots of a day are active. -/
def activeSlots (mask : Array Bool) (day : Weekday) : List Bool :=
  (List.range g.slots).map fun i => !(mask.getD (day.index * g.slots + i) false)

end

end Grid

end FleetSizing
