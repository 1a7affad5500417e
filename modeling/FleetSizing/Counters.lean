import FleetSizing.Powers
import FleetSizing.Text.Decimal
import FleetSizing.Text.Integer

/-! Running totals over resources, and their text for a monitor. -/
namespace FleetSizing

structure Counters where
  processed : Nat := 0
  failed : Nat := 0
  postponed : Nat := 0
  /-- Load regimes of the resource processed last, as a signed 64-bit integer. -/
  clusters : Int := 0
  deriving DecidableEq, Repr, Inhabited

namespace Counters

def addProcessed (c : Counters) : Counters := { c with processed := c.processed + 1 }

def addFailed (c : Counters) : Counters := { c with failed := c.failed + 1 }

def addPostponed (c : Counters) : Counters := { c with postponed := c.postponed + 1 }

def setClusters (c : Counters) (n : Nat) : Counters := { c with clusters := wrapSigned 64 n }

/-- One metric: what it means, its kind, and its value. -/
def family (name kind help value : String) : List String :=
  ["# HELP " ++ name ++ " " ++ help, "# TYPE " ++ name ++ " " ++ kind, name ++ " " ++ value]

def countText (n : Nat) : String := Decimal.message.text (Float.ofNat n)

/-- Lines of a snapshot, metrics ascending by name. -/
def snapshot (c : Counters) : List String :=
  family "rightsizer_clusters_detected" "gauge"
      "Load regimes detected for the most recently processed resource"
      (Decimal.message.text (Float.ofInt c.clusters)) ++
    family "rightsizer_resources_failed_total" "counter" "Resources whose pipeline failed"
      (countText c.failed) ++
    family "rightsizer_resources_postponed_total" "counter"
      "Resources skipped because every recommendation type was postponed" (countText c.postponed) ++
    family "rightsizer_resources_processed_total" "counter"
      "Resources that produced a recommendation report" (countText c.processed)

end Counters

end FleetSizing
