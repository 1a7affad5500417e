import FleetSizing.Catalog
import FleetSizing.Json.Value
import FleetSizing.Rule

/-! Shapes, prices and rules as JSON. -/
namespace FleetSizing

variable {α : Type} [Scalar α]

omit [Scalar α] in
def Cloud.toJson (c : Cloud) : Json α := .text c.name

omit [Scalar α] in
def Cloud.ofJson? (j : Json α) : Option Cloud := j.oneOf? Cloud.all Cloud.name

namespace Shape

def fieldNames : List String :=
  ["name", "cloud", "cpu", "memory", "network_throughput", "iops", "family_type",
   "physical_processor", "architecture"]

def fields (s : Shape α) : List (String × Json α) :=
  [("name", .text s.name), ("cloud", s.cloud.toJson), ("cpu", .ofReal s.cpu),
   ("memory", .ofReal s.memory), ("network_throughput", .ofReal s.network),
   ("iops", .ofReal s.iops), ("family_type", .text s.family),
   ("physical_processor", .text s.processor), ("architecture", .text s.architecture)]

def toJson (s : Shape α) : Json α := .object s.fields

/-- All but name, cloud, cpu and memory may be left out. -/
def ofRecord? (r : Json.Record α) : Option (Shape α) := do
  let zero : α := ((0 : Nat) : α)
  return {
    name := ← r.required "name" Json.text?
    cloud := ← r.required "cloud" Cloud.ofJson?
    cpu := ← r.required "cpu" Json.real?
    memory := ← r.required "memory" Json.real?
    network := ← r.withDefault "network_throughput" zero Json.real?
    iops := ← r.withDefault "iops" zero Json.real?
    family := ← r.withDefault "family_type" "" Json.text?
    processor := ← r.withDefault "physical_processor" "" Json.text?
    architecture := ← r.withDefault "architecture" "" Json.text? }

def ofJson? (j : Json α) : Option (Shape α) := (j.record? fieldNames).bind ofRecord?

end Shape

namespace Price

/-- System of a resource or a price that names none. -/
def defaultOs : String := "linux"

def toJson (p : Price α) : Json α :=
  .object [("customer", .text p.customer), ("name", .text p.name), ("region", .text p.region),
    ("os", .text p.os), ("hourly_price", .ofReal p.hourly)]

def ofJson? (j : Json α) : Option (Price α) := do
  let r ← j.record? ["customer", "name", "region", "os", "hourly_price"]
  return {
    customer := ← r.withDefault "customer" PriceCatalog.defaultCustomer Json.text?
    name := ← r.required "name" Json.text?
    region := ← r.required "region" Json.text?
    os := ← r.withDefault "os" defaultOs Json.text?
    hourly := ← r.required "hourly_price" Json.real? }

end Price

namespace Rule

omit [Scalar α] in
def toJson (r : Rule) : Json α :=
  .object [("id", .text r.id), ("cloud", r.cloud.toJson), ("action", .text r.action.name),
    ("condition", .text r.condition.name), ("field", .text r.field.key), ("value", .text r.value)]

omit [Scalar α] in
def ofJson? (j : Json α) : Option Rule := do
  let r ← j.record? ["id", "cloud", "action", "condition", "field", "value"]
  return {
    id := ← r.required "id" Json.text?
    cloud := ← r.required "cloud" Cloud.ofJson?
    action := ← r.required "action" (Json.oneOf? RuleAction.all RuleAction.name)
    condition := ← r.required "condition" (Json.oneOf? RuleCondition.all RuleCondition.name)
    field := ← r.required "field" (Json.oneOf? RuleField.all RuleField.key)
    value := ← r.required "value" Json.text? }

end Rule

end FleetSizing
