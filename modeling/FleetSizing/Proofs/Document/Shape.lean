import FleetSizing.Document.Shape
import FleetSizing.Proofs.Json.Values

/-! Shapes and rules come back from what is written for them. -/
namespace FleetSizing

variable {α : Type}

open Json

@[simp] theorem Cloud.ofJson?_toJson (c : Cloud) : Cloud.ofJson? (α := α) c.toJson = some c := by
  cases c <;> rfl

@[simp] theorem RuleAction.oneOf?_name (a : RuleAction) :
    oneOf? (α := α) RuleAction.all RuleAction.name (.text a.name) = some a := by
  cases a <;> rfl

@[simp] theorem RuleCondition.oneOf?_name (c : RuleCondition) :
    oneOf? (α := α) RuleCondition.all RuleCondition.name (.text c.name) = some c := by
  cases c <;> rfl

@[simp] theorem RuleField.oneOf?_key (f : RuleField) :
    oneOf? (α := α) RuleField.all RuleField.key (.text f.key) = some f := by
  cases f <;> rfl

theorem Rule.ofJson?_toJson (r : Rule) : Rule.ofJson? (α := α) r.toJson = some r := by
  rw [Rule.ofJson?, Rule.toJson, record?, named?_of_nodup]
  · simp [Record.required, Record.get?, text?]
  · simp
  · simp

variable [Scalar α]

namespace Shape

/-- All sizes are finite. -/
structure Finite (s : Shape α) : Prop where
  cpu : Scalar.isFinite s.cpu
  memory : Scalar.isFinite s.memory
  network : Scalar.isFinite s.network
  iops : Scalar.isFinite s.iops

theorem nodup_fieldNames : fieldNames.Nodup := by decide

/-- Whatever fields there are after those of the shape. -/
theorem ofRecord?_fields {s : Shape α} (h : s.Finite) (byPosition : Bool)
    (rest : List (String × Json α)) : ofRecord? ⟨byPosition, s.fields ++ rest⟩ = some s := by
  simp [ofRecord?, Record.required, Record.withDefault, Record.get?, fields, text?,
    real?_ofReal h.cpu, real?_ofReal h.memory, real?_ofReal h.network, real?_ofReal h.iops]

end Shape

end FleetSizing
