import FleetSizing.Rule
import FleetSizing.Settings

/-! What a job may recommend: rules over shapes, and the settings of the engine. -/
namespace FleetSizing

structure Policy (α : Type) where
  rules : List Rule
  settings : Settings α
  /-- Keys without a meaning here, kept as they are. -/
  additional : List (String × Json α)
  deriving BEq, Inhabited

/-- No rules, and the settings of a document that says nothing. -/
def Policy.default {α : Type} [Scalar α] : Policy α := ⟨[], Settings.default, []⟩

end FleetSizing
