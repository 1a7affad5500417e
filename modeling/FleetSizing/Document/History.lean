import FleetSizing.Document.Report
import FleetSizing.History

/-! History entries as JSON. -/
namespace FleetSizing

variable {α : Type} [Scalar α]

namespace Kind

omit [Scalar α] in
def toJson (k : Kind) : Json α := .text k.name

omit [Scalar α] in
def ofJson? (j : Json α) : Option Kind := j.oneOf? all name

end Kind

omit [Scalar α] in
def Day.toJson (d : Day) : Json α := .text d.render

omit [Scalar α] in
def Day.ofJson? (j : Json α) : Option Day := j.text?.bind Day.parse?

omit [Scalar α] in
def Instant.toJson (t : Instant) : Json α := .text t.render

omit [Scalar α] in
def Instant.ofJson? (j : Json α) : Option Instant := j.text?.bind Instant.parse?

namespace Entry

/-- Every field is written, with null for what is unknown. -/
def toJson (e : Entry α) : Json α :=
  .object [("resource_id", .text e.resource), ("recommendation_type", e.kind.toJson),
    ("day", e.day.toJson), ("current_shape", .ofOption .text e.currentShape),
    ("current_monthly_price", .ofOption .ofReal e.currentMonthlyPrice),
    ("action", e.action.toJson), ("target", .ofOption Target.toJson e.target),
    ("savings", .ofList Saving.toJson e.savings), ("status", .text e.status.name),
    ("postponed_until", .ofOption Instant.toJson e.postponedUntil)]

def ofJson? (j : Json α) : Option (Entry α) := do
  let r ← j.record? ["resource_id", "recommendation_type", "day", "current_shape",
    "current_monthly_price", "action", "target", "savings", "status", "postponed_until"]
  return {
    resource := ← r.required "resource_id" Json.text?
    kind := ← r.required "recommendation_type" Kind.ofJson?
    day := ← r.required "day" Day.ofJson?
    currentShape := ← r.optional "current_shape" Json.text?
    currentMonthlyPrice := ← r.optional "current_monthly_price" Json.real?
    action := ← r.required "action" Action.ofJson?
    target := ← r.optional "target" Target.ofJson?
    savings := ← r.required "savings" (Json.list? Saving.ofJson?)
    status := ← r.required "status" (Json.oneOf? EntryStatus.all EntryStatus.name)
    postponedUntil := ← r.optional "postponed_until" Instant.ofJson? }

end Entry

end FleetSizing
