import FleetSizing.Action
import FleetSizing.Scalar

/-! Sizes a resource can have. -/
namespace FleetSizing

/-- A size offered by a cloud. -/
structure Shape (α : Type) where
  name : String
  cloud : Cloud
  cpu : α
  /-- Gibibytes. -/
  memory : α
  network : α
  iops : α
  family : String
  processor : String
  architecture : String
  deriving BEq, Inhabited

end FleetSizing
