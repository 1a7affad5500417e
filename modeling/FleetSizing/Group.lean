import FleetSizing.History
import FleetSizing.Text.Blank

/-! Resources of one group, whose recommendations have to agree. -/
namespace FleetSizing

/-- Labels of a resource, each key once. -/
abbrev Tags := List (String × String)

/-- Tag that names the group where the configured one is missing. -/
def resourceGroupTag : String := "resource_group_arn"

/-- The group of a resource; a blank name is none. -/
def groupKey? (tags : Tags) (tagKey : String) : Option String :=
  ((tags.lookup tagKey).orElse fun _ => tags.lookup resourceGroupTag).filter fun v =>
    !(Blank.trim v).isEmpty

namespace Report

variable {α : Type}

/-- Without its resize: actions, shapes and options of that kind are gone. -/
def withoutResize (r : Report α) : Report α :=
  Report.settled { r with
    actions := r.actions.filter (!·.isResize)
    shapes := none
    savings := r.savings.map fun os => os.filter (!·.action.isResize) }

variable [Scalar α]

/-- Without its schedule: the resource runs always. -/
def withoutSchedule (r : Report α) : Report α :=
  Report.settled { r with
    actions := r.actions.filter (· != .schedule)
    schedule := some [Window.alwaysRun]
    savings := r.savings.map fun os => os.filter (·.action != .schedule) }

/-- The custom schedule, where the report proposes one. -/
def proposedSchedule? (r : Report α) : Option (List (Window α)) :=
  if r.has .schedule then r.customSchedule? else none

end Report

/-- How many reports a reconciliation changed. -/
structure Reconciled where
  resize : Nat
  schedule : Nat
  deriving DecidableEq, Repr, Inhabited

def Reconciled.total (r : Reconciled) : Nat := r.resize + r.schedule

namespace Group

variable {α : Type}

/-- Resizes that go together: where one member grows none may shrink. -/
def acceptable (growing : Bool) (a : Action) : Bool :=
  if growing then a == .changeShape || a == .scaleUp
  else a == .scaleDown || a == .shutdown || a == .changeShape

/-- Proposes a resize that does not go with the group. -/
def resizeClashes (growing : Bool) (r : Report α) : Bool :=
  r.actions.any fun a => a.isResize && !acceptable growing a

/-- Takes out the resizes that do not go with the group, and counts them. -/
def resizePass (reports : List (Report α)) : List (Report α) × Nat :=
  let growing := reports.any (·.has .scaleUp)
  (reports.map fun r => if resizeClashes growing r then r.withoutResize else r,
   reports.countP (resizeClashes growing))

/-- Minutes a week, however many windows there are; `runtime_lt` tells when 32 bits hold them. -/
def runtime (windows : List (Window α)) : Nat := windows.foldr (fun w minutes => w.weeklyMinutes + minutes) 0

variable [Scalar α]

/-- Share of the longest runtime that a schedule has to reach. -/
def runtimeShare : α := Scalar.ratio 95 100

/-- The least runtime a schedule may have; none if all schedules are the same. -/
def runtimeFloor? (reports : List (Report α)) : Option α :=
  let schedules := reports.filterMap Report.proposedSchedule?
  if schedules.eraseDups.length ≤ 1 then none
  else some ((((schedules.map runtime).foldl max 0 : Nat) : α) * runtimeShare)

/-- Proposes a schedule that runs for less. -/
def scheduleClashes (floor : Option α) (r : Report α) : Bool :=
  match floor, r.proposedSchedule? with
  | some f, some windows => (runtime windows : α) < f
  | _, _ => false

/-- Takes out the schedules that are too short, and counts them. -/
def schedulePass (reports : List (Report α)) : List (Report α) × Nat :=
  let floor := runtimeFloor? reports
  (reports.map fun r => if scheduleClashes floor r then r.withoutSchedule else r,
   reports.countP (scheduleClashes floor))

/-- Both passes, resizes first. -/
def passes (reports : List (Report α)) : List (Report α) × Reconciled :=
  let (sized, resize) := resizePass reports
  let (scheduled, schedule) := schedulePass sized
  (scheduled, ⟨resize, schedule⟩)

/-- Brings the recommended entries of a report's day in line with it. -/
def syncHistory (day : Day) (h : History α) (r : Report α) : History α :=
  Kind.all.foldl (fun h k =>
    match h.get? r.resource k day with
    | some e => if e.status = .recommended then h.upsert (e.syncWith r) else h
    | none => h) h

omit [Scalar α] in
/-- Puts a report in the place of the first one of its resource. -/
def putFirst (r : Report α) : List (Report α) → List (Report α)
  | [] => []
  | s :: ss => if s.resource = r.resource then r :: ss else s :: putFirst r ss

/-- Reconciles the reports of one group; failed reports take no part. -/
def reconcile (day : Day) (h : History α) (reports : List (Report α)) :
    List (Report α) × History α × Reconciled :=
  let (active, counts) := passes (reports.filter (·.status == .success))
  (active.foldl (fun rs r => putFirst r rs) reports, active.foldl (syncHistory day) h, counts)

end Group

end FleetSizing
