import FleetSizing.Report

/-! Where reports are delivered. -/
namespace FleetSizing

/-- The place a report is delivered to. -/
structure ResultKey where
  customer : String
  cloud : Cloud
  tenant : String
  region : String
  resource : String
  deriving DecidableEq, Repr, Inhabited

/-- Takes reports in order. Any delivery may be refused, whatever came before it. -/
structure Sink (α : Type) where
  /-- Why a delivery is refused; deliveries are counted from zero, refused ones included. -/
  refusal : Nat → ResultKey → Report α → Option String := fun _ _ _ => none
  attempts : Nat := 0
  records : List (ResultKey × Report α) := []

namespace Sink

variable {α : Type}

/-- A sink that refuses nothing. -/
def empty : Sink α := {}

/-- The reason of a refusal, and the sink after the attempt. -/
def append (s : Sink α) (key : ResultKey) (report : Report α) : Option String × Sink α :=
  match s.refusal s.attempts key report with
  | some reason => (some reason, { s with attempts := s.attempts + 1 })
  | none => (none, { s with attempts := s.attempts + 1, records := s.records ++ [(key, report)] })

def size (s : Sink α) : Nat := s.records.length

/-- The first report delivered for a resource. -/
def get? (s : Sink α) (resource : String) : Option (Report α) :=
  (s.records.find? (·.1.resource == resource)).map (·.2)

end Sink

end FleetSizing
