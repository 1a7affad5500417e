import FleetSizing.Document.History
import FleetSizing.Document.Policy
import FleetSizing.Job

/-! Job documents: a job with the catalogs and samples it runs on. -/
namespace FleetSizing

variable {α : Type} [Scalar α]

namespace Sample

def toJson (s : Sample α) : Json α :=
  .object [("resource_id", .text s.resource), ("native_shape_name", .text s.shape),
    ("timestamp", .int s.timestamp), ("cpu_load", .ofReal s.cpu), ("memory_load", .ofReal s.memory),
    ("net_output_load", .ofReal s.network), ("avg_disk_iops", .ofReal s.iops),
    ("max_disk_iops", .ofReal s.peakIops)]

def ofJson? (j : Json α) : Option (Sample α) := do
  let r ← j.record? ["resource_id", "native_shape_name", "timestamp", "cpu_load", "memory_load",
    "net_output_load", "avg_disk_iops", "max_disk_iops"]
  return {
    resource := ← r.required "resource_id" Json.text?
    shape := ← r.required "native_shape_name" Json.text?
    timestamp := ← r.required "timestamp" Json.int64?
    cpu := ← r.required "cpu_load" Json.real?
    memory := ← r.required "memory_load" Json.real?
    network := ← r.required "net_output_load" Json.real?
    iops := ← r.required "avg_disk_iops" Json.real?
    peakIops := ← r.required "max_disk_iops" Json.real? }

end Sample

namespace Resource

omit [Scalar α] in
def toJson (r : Resource) : Json α :=
  .object [("resource_id", .text r.id), ("region", .text r.region), ("os", .text r.os),
    ("tags", .object (r.tags.map fun (key, value) => (key, .text value)))]

omit [Scalar α] in
def ofJson? (j : Json α) : Option Resource := do
  let r ← j.record? ["resource_id", "region", "os", "tags"]
  return {
    id := ← r.required "resource_id" Json.text?
    region := ← r.withDefault "region" "" Json.text?
    os := ← r.withDefault "os" Price.defaultOs Json.text?
    tags := ← r.withDefault "tags" [] Json.texts? }

end Resource

namespace Job

def toJson (j : Job α) : Json α :=
  .object [("job_id", .text j.id), ("cloud", j.cloud.toJson), ("tenant", .text j.tenant),
    ("customer", .text j.customer), ("resources", .ofList Resource.toJson j.resources),
    ("policy", j.policy.toJson)]

def ofJson? (j : Json α) : Option (Job α) := do
  let r ← j.record? ["job_id", "cloud", "tenant", "customer", "resources", "policy"]
  return {
    id := ← r.required "job_id" Json.text?
    cloud := ← r.required "cloud" Cloud.ofJson?
    tenant := ← r.required "tenant" Json.text?
    customer := ← r.required "customer" Json.text?
    resources := ← r.required "resources" (Json.list? Resource.ofJson?)
    policy := ← r.withDefault "policy" Policy.default Policy.ofJson? }

end Job

/-- All that one run needs. -/
structure JobDocument (α : Type) where
  job : Job α
  shapes : List (Shape α)
  prices : List (Price α)
  /-- Columns the rows carry; every standard column if none are given. -/
  columns : Option (List String)
  samples : List (Sample α)
  deriving Inhabited

namespace JobDocument

def toJson (d : JobDocument α) : Json α :=
  .object [("job", d.job.toJson), ("shapes", .ofList Shape.toJson d.shapes),
    ("prices", .ofList Price.toJson d.prices), ("columns", .ofOption .ofTexts d.columns),
    ("samples", .ofList Sample.toJson d.samples)]

def ofJson? (j : Json α) : Option (JobDocument α) := do
  let r ← j.record? ["job", "shapes", "prices", "columns", "samples"]
  return {
    job := ← r.required "job" Job.ofJson?
    shapes := ← r.withDefault "shapes" [] (Json.list? Shape.ofJson?)
    prices := ← r.withDefault "prices" [] (Json.list? Price.ofJson?)
    columns := ← r.withDefault "columns" none (Json.optional? (Json.list? Json.text?))
    samples := ← r.withDefault "samples" [] (Json.list? Sample.ofJson?) }

omit [Scalar α] in
def catalog (d : JobDocument α) : ShapeCatalog α := .ofList d.shapes

omit [Scalar α] in
def priceCatalog (d : JobDocument α) : PriceCatalog α := .ofList d.prices

omit [Scalar α] in
def source (d : JobDocument α) : Source α := .ofRows d.columns d.samples

end JobDocument

def Summary.toJson (s : Summary) : Json α :=
  let count (n : Nat) : Json α := .int n
  .object [("job_id", .text s.job), ("status", .text s.status.name), ("total", count s.total),
    ("completed", count s.completed), ("postponed", count s.postponed), ("failed", count s.failed)]

namespace ResultKey

omit [Scalar α] in
def toJson (k : ResultKey) : Json α :=
  .object [("customer", .text k.customer), ("cloud", k.cloud.toJson), ("tenant", .text k.tenant),
    ("region", .text k.region), ("resource_id", .text k.resource)]

omit [Scalar α] in
def ofJson? (j : Json α) : Option ResultKey := do
  let r ← j.record? ["customer", "cloud", "tenant", "region", "resource_id"]
  return {
    customer := ← r.required "customer" Json.text?
    cloud := ← r.required "cloud" Cloud.ofJson?
    tenant := ← r.required "tenant" Json.text?
    region := ← r.required "region" Json.text?
    resource := ← r.required "resource_id" Json.text? }

end ResultKey

/-- One delivered report. -/
def deliveryJson (d : ResultKey × Report α) : Json α :=
  .object [("key", d.1.toJson), ("report", d.2.toJson)]

/-- What a finished run is written as. -/
def runJson (s : Summary) (l : Ledger α) : Json α :=
  .object [("summary", s.toJson), ("reports", .ofList deliveryJson l.sink.records),
    ("history", .ofList Entry.toJson l.history.entries)]

end FleetSizing
