import FleetSizing.Rule
import FleetSizing.Settings

/-! Which processors may replace each other. -/
namespace FleetSizing

inductive Vendor where
  | intel | amd
  /-- Processors that the cloud AWS designs itself. -/
  | aws
  | unknown
  deriving DecidableEq, Repr, Inhabited

namespace Vendor

def name : Vendor → String
  | intel => "Intel" | amd => "Amd" | aws => "Aws" | unknown => "Unknown"

def isX86 : Vendor → Bool
  | intel | amd => true
  | _ => false

/-- Read off the description of a processor. -/
def ofProcessor (processor : String) : Vendor :=
  let p := Unicode.toLower processor
  if containsText p "intel" then intel
  else if containsText p "amd" then amd
  else if containsText p "graviton" || "aws".toList.isPrefixOf p.toList then aws
  else unknown

end Vendor

/-- Equal up to the case of ASCII letters. -/
def sameAsciiText (a b : String) : Bool := a.toList.map Char.toLower == b.toList.map Char.toLower

namespace Shape

variable {α : Type}

def vendor (s : Shape α) : Vendor := .ofProcessor s.processor

/-- Not known to differ in architecture. -/
def sameArchitecture (a b : Shape α) : Bool :=
  a.architecture.isEmpty || b.architecture.isEmpty || sameAsciiText a.architecture b.architecture

/-- Whether a shape may replace the current one. -/
def isCompatible (mode : Compatibility) (current candidate : Shape α) : Bool :=
  match mode with
  | .any => true
  | .onlyCompatible =>
    match current.vendor, candidate.vendor with
    | .unknown, _ | _, .unknown => current.sameArchitecture candidate
    | .aws, .aws => true
    | a, b => a.isX86 && b.isX86
  | .onlySame => current.vendor == candidate.vendor && current.sameArchitecture candidate

end Shape

end FleetSizing
