import FleetSizing.Keyed
import FleetSizing.Shape
import FleetSizing.Unicode.Case

/-! Catalogs of shapes and prices; later rows replace earlier ones with their key. -/
namespace FleetSizing

variable {α : Type}

/-- Shapes under their names. -/
abbrev ShapeCatalog (α : Type) := Keyed (Shape.name (α := α))

/-- The shapes of a cloud, ascending by name. -/
def ShapeCatalog.list (c : ShapeCatalog α) (cloud : Cloud) : List (Shape α) :=
  (c.values.filter (·.cloud == cloud)).mergeSort fun a b => ¬ b.name < a.name

/-- One row of hourly prices. -/
structure Price (α : Type) where
  customer : String
  name : String
  region : String
  os : String
  hourly : α
  deriving BEq, Inhabited

/-- Rows under their keys, regions and systems in lower case, latest first. -/
structure PriceCatalog (α : Type) where
  rows : List (Price α)

namespace PriceCatalog

/-- Tier asked when a customer has no price of its own. -/
def defaultCustomer : String := "default"

def normalized (p : Price α) : Price α :=
  { p with region := Unicode.toLower p.region, os := Unicode.toLower p.os }

def ofList (rows : List (Price α)) : PriceCatalog α := ⟨(rows.map normalized).reverse⟩

variable (c : PriceCatalog α)

/-- Price of one tier; region and system are in lower case. -/
def lookup? (customer name region os : String) : Option α :=
  (c.rows.find? fun p =>
    p.customer == customer && p.name == name && p.region == region && p.os == os).map (·.hourly)

/-- A customer's own price, else the default one. -/
def hourly? (customer name region os : String) : Option α :=
  let region := Unicode.toLower region
  let os := Unicode.toLower os
  (c.lookup? customer name region os).orElse fun _ =>
    c.lookup? defaultCustomer name region os

variable [Scalar α]

def monthHours : α := Scalar.ratio 1461 2

/-- Price of running around the clock for an average month. -/
def monthly? (customer name region os : String) : Option α :=
  (c.hourly? customer name region os).map (· * monthHours)

end PriceCatalog

/-- Whose prices hold for a resource, and where. -/
structure Pricing where
  customer : String
  region : String
  os : String
  deriving DecidableEq, Repr

def PriceCatalog.monthlyFor? [Scalar α] (c : PriceCatalog α) (p : Pricing) (shape : String) : Option α :=
  c.monthly? p.customer shape p.region p.os

end FleetSizing
