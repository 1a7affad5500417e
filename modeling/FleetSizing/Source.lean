import FleetSizing.Error
import FleetSizing.Keyed
import FleetSizing.Sample

/-! Where the samples of a resource are read from. -/
namespace FleetSizing

/-- The rows a source holds for one resource. -/
structure Series (α : Type) where
  resource : String
  batch : Batch α
  deriving BEq

/-- Rows under the resources they belong to. -/
abbrev Source (α : Type) := Keyed (Series.resource (α := α))

namespace Source

variable {α : Type}

/-- Splits rows by resource; without columns of their own they carry every standard column. -/
def ofRows (columns : Option (List String)) (rows : List (Sample α)) : Source α :=
  Keyed.ofList <| (rows.map (·.resource)).eraseDups.map fun r =>
    ⟨r, columns.getD standardColumns, rows.filter (·.resource == r)⟩

/-- The rows of a resource, ascending by time. -/
def read (s : Source α) (resource : String) : Except EngineError (Batch α) :=
  match s.get? resource with
  | some series => .ok { series.batch with samples := byTime series.batch.samples }
  | none => .error (.metricSource ("no metrics found for resource " ++ resource))

end Source

end FleetSizing
