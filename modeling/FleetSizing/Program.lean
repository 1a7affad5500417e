import FleetSizing.Configuration.Options
import FleetSizing.Document.Job
import FleetSizing.Json.Writer
import FleetSizing.Storage

/-! The program: it reads its options and a job, runs the job, and writes what came of it. -/
namespace FleetSizing

/-- Why the program ends early. -/
inductive ProgramFault where
  | unreadableOptions
  | invalidOptions
  | unreadableJob (path : String)
  | malformedJob (path : String)
  | timeOutOfRange (seconds : Int)
  | runner (fault : RunnerFault)
  | job (fault : JobFault)
  | unwritableReports (path : String)
  | unwritableMetrics (path : String)
  deriving DecidableEq, Repr

namespace ProgramFault

def message : ProgramFault → String
  | unreadableOptions => "failed to read runner configuration"
  | invalidOptions => "invalid runner configuration"
  | unreadableJob path => "failed to read job document " ++ path
  | malformedJob path => "failed to parse job document " ++ path
  | timeOutOfRange s => "reference time " ++ intText s ++ " is out of range"
  | runner fault => fault.message
  | job fault => fault.message
  | unwritableReports path => "failed to write reports to " ++ path
  | unwritableMetrics path => "failed to write metrics to " ++ path

/-- What is at the bottom of a fault, where that is known. -/
def cause? : ProgramFault → Option EngineError
  | job fault => some fault.cause
  | _ => none

end ProgramFault

/-- What the program finds where it is started, files aside. -/
structure Surroundings where
  /-- Names of variables with their values. -/
  environment : List (String × String) := []
  clock : Instant

namespace Program

/-- Resources processed at once, unless the options say otherwise. -/
def defaultConcurrency : Nat := 4

section Configuration

variable {m : Type → Type} [Monad m] (files : Storage m)

/-- The first configuration file there is. A file that bears the name without an extension hides
all of them. -/
def configuration? : m (Option (String × Configuration.Format)) := do
  if ← files.isFile Options.baseName then return none
  let candidates := Configuration.extensions.map fun (ext, format) =>
    (Options.baseName ++ "." ++ ext, format)
  candidates.findM? fun (path, _) => files.isFile path

/-- Settings of the configuration file; none at all if there is none that can be read. -/
def fileSettings : ExceptT ProgramFault m Configuration.Table := do
  let some (path, format) ← ExceptT.lift (configuration? files) | return []
  let some text ← files.read? path | return []
  let some settings := format.settings? text | throw .unreadableOptions
  return settings

/-- Options out of the configuration file and, over it, the environment. -/
def options (environment : List (String × String)) : ExceptT ProgramFault m Options := do
  let settings := Options.settings (← fileSettings files) (Options.ofVariables environment)
  let some options := Options.ofTable? settings | throw .invalidOptions
  return options

/-- The document the options name; a field given twice makes it malformed. -/
def document (o : Options) : ExceptT ProgramFault m (JobDocument Float) := do
  let some text ← files.read? o.jobPath | throw (.unreadableJob o.jobPath)
  let some document := (Json.read? text).bind JobDocument.ofJson? | throw (.malformedJob o.jobPath)
  return document

end Configuration

/-- The job of a document, with the names that the options put into it. -/
def job (o : Options) (d : JobDocument Float) : Job Float :=
  { d.job with customer := o.customer.getD d.job.customer, tenant := o.tenant.getD d.job.tenant }

/-- The instant that counts as the present. -/
def present (o : Options) (clock : Instant) : Except ProgramFault Instant :=
  match o.now with
  | none => .ok clock
  | some s =>
    match Instant.ofSeconds? s with
    | some now => .ok now
    | none => .error (.timeOutOfRange s)

/-- Runs the job of a document from an empty ledger. -/
def execute (o : Options) (clock : Instant) (d : JobDocument Float) :
    Except ProgramFault (Summary × Ledger Float) := do
  let now ← present o clock
  let parts : RunnerParts Float :=
    { read := some d.source.read
      shapes := some d.catalog
      prices := some d.priceCatalog
      sink := some .empty
      concurrency := o.concurrency.getD defaultConcurrency
      now }
  let (runner, ledger) ← parts.build?.mapError .runner
  (runner.run (job o d) ledger).mapError .job

/-- The text of a snapshot of counters. -/
def metricsText (c : Counters) : String := String.join (c.snapshot.map (· ++ "\n"))

variable {m : Type → Type} [Monad m] (files : Storage m)

/-- Writes reports, then metrics if there is a place for them. -/
def publish (o : Options) (s : Summary) (l : Ledger Float) : ExceptT ProgramFault m Unit := do
  unless ← files.write o.outputPath (Json.pretty 0 (runJson s l)) do
    throw (.unwritableReports o.outputPath)
  if let some path := o.metricsPath then
    unless ← files.write path (metricsText l.counters) do
      throw (.unwritableMetrics path)

/-- The whole program. -/
def run (w : Surroundings) : ExceptT ProgramFault m (Summary × Ledger Float) := do
  let o ← options files w.environment
  let d ← document files o
  let (summary, ledger) ← execute o w.clock d
  publish files o summary ledger
  return (summary, ledger)

end Program

end FleetSizing
