import FleetSizing.Unicode.Runs
import FleetSizing.Unicode.ScriptTable

/-! Scripts of code points. -/
namespace FleetSizing.Unicode

def scripts : List (String × Nat × Nat) := tagged 0 (tableWords scriptRuns)

/-- The tag of a script, by any of its names. -/
def scriptTag? (name : String) : Option String := do
  let names ← ((tableWords scriptNames).map slashed).find? fun names =>
    names.any fun n => looseName n == name
  names.head?

/-- Code points of one script alone. -/
def script? (name : String) : Option CodeSet :=
  (scriptTag? name).map fun tag => select scripts (· == tag)

/-- Ranges that several scripts use, with the scripts. -/
def sharedRanges : List (List Char) → List ((Nat × Nat) × List String)
  | first :: count :: tags :: rest =>
    ((number first, number first + number count - 1), slashed tags) :: sharedRanges rest
  | _ => []

def shared : List ((Nat × Nat) × List String) := sharedRanges (tableWords sharedScripts)

/-- Code points that a script uses, its own or shared ones. -/
def scriptExtensions? (name : String) : Option CodeSet := do
  let tag ← scriptTag? name
  let own := (select scripts (· == tag)).diff ⟨shared.map (·.1)⟩
  return own.union (CodeSet.ofRanges ((shared.filter (·.2.contains tag)).map (·.1)))

end FleetSizing.Unicode
