import FleetSizing.Postponement
import FleetSizing.Powers
import FleetSizing.Savings
import FleetSizing.Schedule.Synthesis
import FleetSizing.Selection.Ranking

/-! One resource from its samples to its report. -/
namespace FleetSizing

/-- A resource of a job. -/
structure Resource where
  id : String
  region : String
  os : String
  tags : Tags
  deriving DecidableEq, Repr, Inhabited

/-- What all resources of a job share. -/
structure Engine (α : Type) where
  shapes : ShapeCatalog α
  prices : PriceCatalog α
  rules : RuleSet
  settings : Settings α
  customer : String
  /-- Reference instant of postponements and history. -/
  now : Instant

/-- A resource that has a report. -/
structure Completed (α : Type) where
  report : Report α
  history : List (Entry α)
  /-- Load regimes found; none are sought for a resource that is never active. -/
  clusters : Nat

/-- How one resource ends. -/
inductive Outcome (α : Type) where
  | completed (c : Completed α)
  /-- Every kind is postponed, and only history is written. -/
  | postponed (resource : String) (deadline : Instant) (kinds : List Kind) (history : List (Entry α))
  | failed (resource : String) (error : StepError)

namespace Outcome

variable {α : Type}

def resource : Outcome α → String
  | completed c => c.report.resource
  | postponed r _ _ _ => r
  | failed r _ => r

def isCompleted : Outcome α → Bool
  | completed _ => true
  | _ => false

def isPostponed : Outcome α → Bool
  | postponed _ _ _ _ => true
  | _ => false

def isFailed : Outcome α → Bool
  | failed _ _ => true
  | _ => false

/-- Entries written for the resource, in order. -/
def history : Outcome α → List (Entry α)
  | completed c => c.history
  | postponed _ _ _ h => h
  | failed _ _ => []

end Outcome

/-- Why samples cannot be used. -/
inductive BatchFault (α : Type) where
  | missingColumns (names : List String)
  | noSamples
  | tooShort (days : α) (required : Nat)
  | unknownShape (name : String)

namespace BatchFault

variable {α : Type} [Scalar α]

def detail : BatchFault α → String
  | missingColumns names => "missing required columns: " ++ ", ".intercalate names
  | noSamples => "metric series is empty"
  | tooShort days required =>
    "metric series spans " ++ Scalar.tenths days ++ " days, at least " ++
      Decimal.digitText required ++ " required"
  | unknownShape name => "unknown current shape " ++ name

def error (f : BatchFault α) : EngineError := .validation f.detail

end BatchFault

/-- A resize and the shapes it offers. -/
structure Decision (α : Type) where
  action : Action
  offers : List (Offer α)

/-- A report without what a postponement covers. -/
def Report.withoutPostponed {α : Type} [Scalar α] (p : Postponement) (r : Report α) : Report α :=
  let removed := r.actions.filter p.coversAction
  if removed.isEmpty then r
  else
    let kept := r.actions.filter (!p.coversAction ·)
    let keeps (o : Saving α) : Bool :=
      kept.contains o.action || (o.action == .scaleDown && kept.contains .shutdown)
    let savings := (r.savings.map fun os => os.filter keeps).filter (!·.isEmpty)
    Report.settled { r with
      actions := kept
      shapes := if removed.any (· != .schedule) then none else r.shapes
      schedule := if removed.contains .schedule then some [Window.alwaysRun] else r.schedule
      savings }

namespace Engine

variable {α : Type} [Scalar α]

/-- Seconds a series spans, its last step included, in 64-bit arithmetic. -/
def span (step : Nat) (first last : Sample α) : Int :=
  wrapSigned 64 (last.timestamp - first.timestamp + (step : Int) * 60)

variable (e : Engine α)

omit [Scalar α] in
/-- Calendar day of history entries. -/
def day : Day := e.now.day

omit [Scalar α] in
def pricing (r : Resource) : Pricing := ⟨e.customer, r.region, r.os⟩

def price? (r : Resource) (shape : String) : Option α := e.prices.monthlyFor? (e.pricing r) shape

/-- The postponement in force for a resource. -/
def postponement? (r : Resource) : Except StepError (Option Postponement) :=
  (Postponement.ofTags r.tags e.now).mapError fun f => ⟨.initialization, f.error⟩

omit [Scalar α] in
/-- Ends a resource with every kind postponed. -/
def postpone (r : Resource) (p : Postponement) : Outcome α :=
  .postponed r.id p.deadline p.kinds
    (p.kinds.map fun k => Entry.postponedFor r.id k e.day none p.deadline)

/-- Samples in order of time, and the shape the last of them names. -/
def validate (b : Batch α) : Except (BatchFault α) (List (Sample α) × Shape α) :=
  let missing := b.missing e.settings.requiredColumns
  if !missing.isEmpty then .error (.missingColumns missing)
  else
    let samples := byTime b.samples
    match samples.head?, samples.getLast? with
    | some first, some last =>
      let span := span (e.settings.stepMinutes samples) first last
      if span < (e.settings.minAllowedDays : Int) * 86400 then
        .error (.tooShort ((span : α) / ((86400 : Nat) : α)) e.settings.minAllowedDays)
      else
        match e.shapes.get? last.shape with
        | some current => .ok (samples, current)
        | none => .error (.unknownShape last.shape)
    | _, _ => .error .noSamples

/-- The best shapes of the current cloud. -/
def candidates (r : Resource) (current : Shape α) (requirement : Requirement α) : List (Shape α) :=
  Selection.select e.rules e.settings (fun s => e.price? r s.name) current requirement
    (ShapeCatalog.list e.shapes current.cloud)

def requirement (trend : Trend α) (current : Shape α) (a : Action) : Requirement α :=
  .forTrend trend current a e.settings.targetUtilization

/-- The resize a trend asks for, if there is a shape for it. -/
def tryResize (r : Resource) (current : Shape α) (trend : Trend α) (a : Action) :
    Option (Decision α) :=
  let shapes := e.candidates r current (e.requirement trend current a)
  if shapes.isEmpty then none else some ⟨a, shapes.map fun s => { shape := s }⟩

/-- Tries a trend, then the one it falls back to. -/
def resize (r : Resource) (current : Shape α) (trend : Trend α) (a : Action) : Option (Decision α) :=
  (e.tryResize r current trend a).orElse fun _ => do
    let fallback ← trend.fallback?
    e.tryResize r current fallback (← fallback.resizeAction?)

/-- The best shape of one part of a split. -/
def splitOffer (r : Resource) (current : Shape α) (trend : Trend α) : Option (Offer α) :=
  let requirement := Requirement.forSplitPart trend current e.settings.targetUtilization
  (e.candidates r current requirement).head?.map fun s =>
    ⟨s, some (trend.probability.getD ((0 : Nat) : α))⟩

/-- One shape for each regime; none unless every regime has one. -/
def split (r : Resource) (current : Shape α) (trends : List (Trend α)) : Option (Decision α) :=
  (trends.mapM (e.splitOffer r current)).map fun offers => ⟨.split, offers⟩

/-- The decision for the trends of all regimes. -/
def resizeFor (r : Resource) (current : Shape α) (trends : List (Trend α)) : Option (Decision α) :=
  match Trend.actionOf? trends with
  | some .split => e.split r current trends
  | some a => trends.head?.bind fun t => e.resize r current t a
  | none => none

/-- Shapes to shrink to instead of shutting down. -/
def shrunken (r : Resource) (current : Shape α) (samples : List (Sample α)) : Option (List (Offer α)) :=
  let shapes := e.candidates r current (e.requirement (Trend.ofSamples samples) current .shutdown)
  if shapes.isEmpty then none else some (shapes.map fun s => { shape := s })

/-- Samples the resize is decided on: those inside the schedule, if there are any. -/
def activeSamples (schedule : Schedule α) (samples : List (Sample α)) : List (Sample α) :=
  let active := schedule.activeSamples samples
  if active.isEmpty then samples else active

/-- The report before pricing, and the number of regimes. -/
def decide (r : Resource) (samples : List (Sample α)) (current : Shape α) : Report α × Nat :=
  let schedule := e.settings.schedule samples
  if schedule.isIdle then
    ({ resource := r.id, actions := [.shutdown], shapes := e.shrunken r current samples }, 0)
  else
    let active := activeSamples schedule samples
    let model := ClusterModel.find e.settings.clusterSearch active
    let decision := e.resizeFor r current (model.trends active)
    let actions := (if schedule.isCustom then [Action.schedule] else []) ++
      (decision.map (·.action)).toList
    (Report.settled {
        resource := r.id
        actions
        schedule := some schedule.reported
        shapes := decision.map (·.offers) },
      model.count)

/-- The report with its savings. -/
def price (r : Resource) (current : Shape α) (report : Report α) : Report α :=
  let savings := Savings.estimate (e.price? r) report current.name
  { report with savings := if savings.isEmpty then none else some savings }

/-- Entries of a report, then those of the postponed kinds. -/
def entries (r : Resource) (p : Option Postponement) (current : Shape α) (report : Report α) :
    List (Entry α) :=
  let context : EntryContext α :=
    ⟨e.day, current.name, (e.price? r current.name).map Scalar.round2⟩
  report.entries context ++
    match p with
    | none => []
    | some p => p.kinds.map fun k =>
      { Entry.postponedFor report.resource k e.day (some current.name) p.deadline with
        currentMonthlyPrice := context.currentMonthlyPrice }

/-- Everything after the samples are read. -/
def process (r : Resource) (p : Option Postponement) (b : Batch α) : Except StepError (Completed α) :=
  match e.validate b with
  | .error f => .error ⟨.validateMetrics, f.error⟩
  | .ok (samples, current) =>
    let (report, clusters) := e.decide r samples current
    let priced := e.price r current report
    let report := match p with
      | some p => priced.withoutPostponed p
      | none => priced
    .ok ⟨report, e.entries r p current report, clusters⟩

/-- One resource of a source that has effects, such as waiting for the samples. -/
def runM {m : Type → Type} [Monad m] (read : String → m (Except EngineError (Batch α)))
    (r : Resource) : m (Outcome α) :=
  match e.postponement? r with
  | .error err => return .failed r.id err
  | .ok p =>
    match p.filter (·.coversAll) with
    | some p => return e.postpone r p
    | none => do
      match ← read r.id with
      | .error cause => return .failed r.id ⟨.downloadMetrics, cause⟩
      | .ok batch =>
        match e.process r p batch with
        | .ok done => return .completed done
        | .error err => return .failed r.id err

/-- A resource whose samples are at hand, or could not be read. -/
def run (read : String → Except EngineError (Batch α)) (r : Resource) : Outcome α :=
  Id.run (e.runM (fun id => pure (read id)) r)

end Engine

end FleetSizing
