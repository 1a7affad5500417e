import FleetSizing.Document.Shape
import FleetSizing.Report

/-! Windows, savings and reports as JSON. -/
namespace FleetSizing

variable {α : Type} [Scalar α]

namespace Weekday

omit [Scalar α] in
def toJson (d : Weekday) : Json α := .text d.name

omit [Scalar α] in
def ofJson? (j : Json α) : Option Weekday := j.text?.bind parse?

end Weekday

namespace TimeOfDay

omit [Scalar α] in
def toJson (t : TimeOfDay) : Json α := .text t.render

omit [Scalar α] in
def ofJson? (j : Json α) : Option TimeOfDay := j.text?.bind parse?

end TimeOfDay

namespace Action

omit [Scalar α] in
def toJson (a : Action) : Json α := .text a.name

omit [Scalar α] in
def ofJson? (j : Json α) : Option Action := j.oneOf? all name

end Action

namespace Window

def toJson (w : Window α) : Json α :=
  .object [("weekdays", .ofList Weekday.toJson w.weekdays), ("start", w.start.toJson),
    ("stop", w.stop.toJson), ("probability", .ofReal w.probability)]

/-- Read as written, without bringing it in order. -/
def ofJson? (j : Json α) : Option (Window α) := do
  let r ← j.record? ["weekdays", "start", "stop", "probability"]
  return {
    weekdays := ← r.required "weekdays" (Json.list? Weekday.ofJson?)
    start := ← r.required "start" TimeOfDay.ofJson?
    stop := ← r.required "stop" TimeOfDay.ofJson?
    probability := ← r.required "probability" Json.real? }

end Window

namespace SplitPart

def toJson (p : SplitPart α) : Json α :=
  .object [("shape", .text p.shape), ("monthly_price", .ofReal p.monthlyPrice),
    ("probability", .ofReal p.probability)]

def ofJson? (j : Json α) : Option (SplitPart α) := do
  let r ← j.record? ["shape", "monthly_price", "probability"]
  return {
    shape := ← r.required "shape" Json.text?
    monthlyPrice := ← r.required "monthly_price" Json.real?
    probability := ← r.required "probability" Json.real? }

end SplitPart

namespace Target

def toJson : Target α → Json α
  | shape name => .object [("kind", .text "shape"), ("name", .text name)]
  | schedule ws => .object [("kind", .text "schedule"), ("windows", .ofList Window.toJson ws)]
  | split parts => .object [("kind", .text "split"), ("parts", .ofList SplitPart.toJson parts)]

/-- Reads one field beside the tag. -/
def content? {β : Type} (name : String) (dec : Json α → Option β) (j : Json α) : Option β := do
  (← j.record? [name]).required name dec

def ofJson? (j : Json α) : Option (Target α) := do
  let (kind, rest) ← j.tagged? "kind"
  match kind with
  | "shape" => (content? "name" Json.text? rest).map shape
  | "schedule" => (content? "windows" (Json.list? Window.ofJson?) rest).map schedule
  | "split" => (content? "parts" (Json.list? SplitPart.ofJson?) rest).map split
  | _ => none

end Target

namespace Saving

def toJson (s : Saving α) : Json α :=
  .object <| [("action", s.action.toJson), ("monthly_price", .ofReal s.monthlyPrice),
    ("saving_percent", .ofReal s.percent), ("saving_amount", .ofReal s.amount)] ++
    Json.given "target" Target.toJson s.target

def ofJson? (j : Json α) : Option (Saving α) := do
  let r ← j.record? ["action", "monthly_price", "saving_percent", "saving_amount", "target"]
  return {
    action := ← r.required "action" Action.ofJson?
    monthlyPrice := ← r.required "monthly_price" Json.real?
    percent := ← r.required "saving_percent" Json.real?
    amount := ← r.required "saving_amount" Json.real?
    target := ← r.optional "target" Target.ofJson? }

end Saving

namespace Offer

/-- The fields of the shape, and the probability if there is one. -/
def toJson (o : Offer α) : Json α :=
  .object (o.shape.fields ++ Json.given "probability" Json.ofReal o.probability)

def fieldNames : List String := "probability" :: Shape.fieldNames

/-- Fields it does not know have to be readable. -/
def ofJson? (j : Json α) : Option (Offer α) := do
  let r ← Json.named? fieldNames j
  let _ ← r.others? fieldNames
  return { shape := ← Shape.ofRecord? r, probability := ← r.optional "probability" Json.real? }

end Offer

namespace Report

def statuses : List ReportStatus := [.success, .error]

def toJson (r : Report α) : Json α :=
  let recommendation :=
    Json.given "schedule" (Json.ofList Window.toJson) r.schedule ++
      Json.given "recommended_shapes" (Json.ofList Offer.toJson) r.shapes ++
      Json.given "savings" (Json.ofList Saving.toJson) r.savings
  .object [("resource_id", .text r.resource), ("general_actions", .ofList Action.toJson r.actions),
    ("recommendation", .object recommendation),
    ("stats", .object [("status", .text r.status.name), ("message", .text r.message)])]

def ofJson? (j : Json α) : Option (Report α) := do
  let r ← j.record? ["resource_id", "general_actions", "recommendation", "stats"]
  let inner ← r.required "recommendation"
    (Json.record? ["schedule", "recommended_shapes", "savings"])
  let stats ← r.required "stats" (Json.record? ["status", "message"])
  return {
    resource := ← r.required "resource_id" Json.text?
    actions := ← r.required "general_actions" (Json.list? Action.ofJson?)
    schedule := ← inner.optional "schedule" (Json.list? Window.ofJson?)
    shapes := ← inner.optional "recommended_shapes" (Json.list? Offer.ofJson?)
    savings := ← inner.optional "savings" (Json.list? Saving.ofJson?)
    status := ← stats.required "status" (Json.oneOf? statuses ReportStatus.name)
    message := ← stats.required "message" Json.text? }

end Report

end FleetSizing
