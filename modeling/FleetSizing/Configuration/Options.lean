import FleetSizing.Configuration.Format

/-! Options of the program, from a configuration file and from variables of its environment. -/
namespace FleetSizing

structure Options where
  jobPath : String := "job.json"
  outputPath : String := "reports.json"
  /-- Where to write a snapshot of the counters, if anywhere. -/
  metricsPath : Option String := none
  concurrency : Option Nat := none
  /-- Takes the place of the customer a job names. -/
  customer : Option String := none
  /-- Takes the place of the tenant a job names. -/
  tenant : Option String := none
  /-- Seconds since 1970-01-01, in place of the clock. -/
  now : Option Int := none
  deriving DecidableEq, Repr, Inhabited

namespace Options

/-- Name of the configuration file, without its extension. -/
def baseName : String := "rightsizer"

/-- Start of the names of variables, in lower case. -/
def variableLead : List Char := "rightsizer_".toList

/-- Text settings out of variables; names compare without case, and the last of several counts. -/
def ofVariables (vars : List (String × String)) : Configuration.Table :=
  vars.foldl (fun t (name, value) =>
    let key := (Unicode.toLower name).toList
    if variableLead.isPrefixOf key then
      Json.assign (String.ofList (key.drop variableLead.length)) (.text value) t
    else t) []

/-- Settings of a file, and those of the environment put over them. -/
def settings (file environment : Configuration.Table) : Configuration.Table :=
  Configuration.overlay (Configuration.overlay [] file) environment

/-- Text, or the text of a simple value. -/
def text? : Json Float → Option String
  | .text s => some s
  | .bool b => some (if b then "true" else "false")
  | .int n => some (intText n)
  | .real x => some (Decimal.message.text x)
  | _ => none

/-- Words that stand for one and zero. -/
def switch? (s : String) : Option Int :=
  let s := Unicode.toLower s
  if ["true", "on", "yes"].contains s then some 1
  else if ["false", "off", "no"].contains s then some 0
  else none

/-- The nearest integer, moved to the bounds if it lies beyond them; zero for what is no number. -/
def rounded (lo hi : Int) (x : Float) : Int :=
  if x.isNaN then 0
  else if x.isInf then (if x < 0 then lo else hi)
  else
    let b := Binary.ofFloat x.round
    let (num, den) := b.fraction
    let n : Int := num / den
    max lo (min hi (if b.negative then -n else n))

/-- The nearest signed 64-bit integer. -/
def roundedSigned (x : Float) : Int := rounded (-(pow2 63 : Int)) (pow2 63 - 1) x

/-- A signed 64-bit integer out of a number, a truth value or text. -/
def int? : Json Float → Option Int
  | .text s => (switch? s).orElse fun _ => parseInt64? s
  | .bool b => some (if b then 1 else 0)
  | .int n => some n
  | .real x => some (roundedSigned x)
  | _ => none

/-- An unsigned 64-bit integer out of a number, a truth value or text. -/
def nat? : Json Float → Option Nat
  | .text s => ((switch? s).map Int.toNat).orElse fun _ => parseNat64? s
  | .bool b => some (if b then 1 else 0)
  | .int n => if n < 0 then none else some n.toNat
  | .real x => some (rounded 0 (pow2 64 - 1) x).toNat
  | _ => none

/-- Options out of settings; unknown ones are ignored. -/
def ofTable? (t : Configuration.Table) : Option Options :=
  let r : Json.Record Float := ⟨false, t⟩
  let d : Options := {}
  do return {
    jobPath := ← r.withDefault "job_path" d.jobPath text?
    outputPath := ← r.withDefault "output_path" d.outputPath text?
    metricsPath := ← r.optional "metrics_path" text?
    concurrency := ← r.optional "concurrency" nat?
    customer := ← r.optional "customer" text?
    tenant := ← r.optional "tenant" text?
    now := ← r.optional "now" int? }

end Options

end FleetSizing
