import FleetSizing.Program
import Std.Time.DateTime.Timestamp

/-! Command line: files, environment and clock of the machine it runs on. -/
namespace FleetSizing.Main

def isFile (path : String) : IO Bool := do
  try
    discard (IO.FS.readBinFile path)
    return true
  catch
    | .permissionDenied .. => return true
    | _ => return false

def read? (path : String) : IO (Option String) := do
  try return some (← IO.FS.readFile path)
  catch _ => return none

def write (path text : String) : IO Bool := do
  try
    IO.FS.writeFile path text
    return true
  catch _ => return false

def machine : Storage IO := ⟨isFile, read?, write⟩

/-- A variable as the system hands it over. -/
def entry? (bytes : List UInt8) : Option (String × String) := do
  let name ← String.fromUTF8? ⟨(bytes.takeWhile (· != 61)).toArray⟩
  let value ← String.fromUTF8? ⟨((bytes.dropWhile (· != 61)).drop 1).toArray⟩
  return (name, value)

def environment : IO (List (String × String)) := do
  try
    let bytes ← IO.FS.readBinFile "/proc/self/environ"
    return (bytes.toList.splitOn 0).filterMap entry?
  catch _ => return []

def clock : IO Instant := do
  let now ← Std.Time.Timestamp.now
  return (Instant.ofSeconds? now.toSecondsSinceUnixEpoch.val).getD default

def report (fault : ProgramFault) : IO Unit := do
  IO.eprintln ("Error: " ++ fault.message)
  if let some cause := fault.cause? then
    IO.eprintln ("\nCaused by:\n    " ++ cause.message)

end FleetSizing.Main

open FleetSizing in
def main : IO UInt32 := do
  match ← (Program.run Main.machine ⟨← Main.environment, ← Main.clock⟩).run with
  | .ok (summary, ledger) =>
    for event in ledger.events do
      IO.println (Json.compact (Event.toJson summary.job event))
    return 0
  | .error fault =>
    Main.report fault
    return 1
