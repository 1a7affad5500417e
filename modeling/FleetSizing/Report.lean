import FleetSizing.Shape
import FleetSizing.Window

/-! Recommendation reports. -/
namespace FleetSizing

/-- One constituent of a split. -/
structure SplitPart (α : Type) where
  shape : String
  monthlyPrice : α
  probability : α
  deriving BEq, Inhabited

/-- What a saving would be reached by. -/
inductive Target (α : Type) where
  | shape (name : String)
  | schedule (windows : List (Window α))
  | split (parts : List (SplitPart α))
  deriving BEq, Inhabited

/-- A priced alternative for a resource. -/
structure Saving (α : Type) where
  action : Action
  monthlyPrice : α
  percent : α
  amount : α
  target : Option (Target α)
  deriving BEq, Inhabited

/-- A shape offered in a report; parts of a split carry the share of time they serve. -/
structure Offer (α : Type) where
  shape : Shape α
  probability : Option α := none
  deriving BEq, Inhabited

inductive ReportStatus where
  | success | error
  deriving DecidableEq, Repr, Inhabited

def ReportStatus.name : ReportStatus → String
  | success => "SUCCESS" | error => "ERROR"

/-- The outcome of one resource. -/
structure Report (α : Type) where
  resource : String
  actions : List Action
  schedule : Option (List (Window α)) := none
  shapes : Option (List (Offer α)) := none
  savings : Option (List (Saving α)) := none
  status : ReportStatus := .success
  message : String := ""
  deriving BEq, Inhabited

namespace Report

variable {α : Type}

/-- The report of a resource whose processing failed. -/
def failed (resource message : String) : Report α :=
  { resource, actions := [.error], status := .error, message }

def has (r : Report α) (a : Action) : Bool := r.actions.contains a

/-- The schedule, if it differs from running always. -/
def customSchedule? (r : Report α) : Option (List (Window α)) :=
  r.schedule.filter (!·.all Window.isAlwaysRun)

def offers (r : Report α) : List (Offer α) := r.shapes.getD []

/-- A report left without actions says so. -/
def settled (r : Report α) : Report α :=
  if r.actions.isEmpty then { r with actions := [.noAction] } else r

@[simp] theorem resource_settled (r : Report α) : r.settled.resource = r.resource := by
  unfold settled
  split <;> rfl

@[simp] theorem status_settled (r : Report α) : r.settled.status = r.status := by
  unfold settled
  split <;> rfl

end Report

end FleetSizing
