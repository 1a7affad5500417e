import FleetSizing.Counters
import FleetSizing.Event
import FleetSizing.Pipeline
import FleetSizing.Policy
import FleetSizing.Sink
import FleetSizing.Source

/-! Running all resources of a job. Tasks may end in any order; what follows waits for all of them. -/
namespace FleetSizing

structure Job (α : Type) where
  id : String
  cloud : Cloud
  tenant : String
  customer : String
  resources : List Resource
  policy : Policy α
  deriving Inhabited

inductive JobStatus where
  | ok | postponed | error
  deriving DecidableEq, Repr, Inhabited

namespace JobStatus

def name : JobStatus → String
  | ok => "OK" | postponed => "POSTPONED" | error => "ERROR"

/-- A job without any report has failed, unless every resource was postponed. -/
def ofCounts (total completed postponed : Nat) : JobStatus :=
  if 0 < completed then ok
  else if 0 < total ∧ postponed = total then .postponed
  else error

end JobStatus

/-- How a job ended. -/
structure Summary where
  job : String
  status : JobStatus
  total : Nat
  completed : Nat
  postponed : Nat
  failed : Nat
  deriving DecidableEq, Repr, Inhabited

def Summary.ofOutcomes {α : Type} (job : String) (outcomes : List (Outcome α)) : Summary :=
  let completed := outcomes.countP (·.isCompleted)
  let postponed := outcomes.countP (·.isPostponed)
  { job
    status := .ofCounts outcomes.length completed postponed
    total := outcomes.length
    completed
    postponed
    failed := outcomes.countP (·.isFailed) }

/-- Why a job does not start. -/
inductive JobFault where
  | settings (cause : EngineError)
  | rules (cause : EngineError)
  deriving DecidableEq, Repr

namespace JobFault

def message : JobFault → String
  | settings _ => "invalid algorithm settings"
  | rules _ => "invalid shape rules"

def cause : JobFault → EngineError
  | settings e | rules e => e

end JobFault

/-- What jobs leave behind. -/
structure Ledger (α : Type) where
  history : History α := .empty
  sink : Sink α := .empty
  counters : Counters := {}
  /-- In order. -/
  events : List (Event α) := []

/-- What the tasks of a job have done once all of them have ended. -/
structure FanOut (α : Type) where
  /-- Outcomes with the places of their resources in the job, as the tasks ended. -/
  arrivals : List (Nat × Outcome α)
  /-- History entries as they were written. -/
  writes : List (Entry α)

namespace FanOut

variable {α : Type}

/-- Tasks that run one after another. -/
def inOrder (outcomes : List (Outcome α)) : FanOut α :=
  ⟨outcomes.mapIdx fun i o => (i, o), outcomes.flatMap Outcome.history⟩

/-- The outcome of a task that never reported back. -/
def aborted (r : Resource) : Outcome α :=
  .failed r.id ⟨.processMetrics, .internal "resource task aborted"⟩

/-- Outcomes in the order of the job's resources. -/
def outcomes (f : FanOut α) (resources : List Resource) : List (Outcome α) :=
  resources.mapIdx fun i r => (f.arrivals.lookup i).getD (aborted r)

end FanOut

namespace Outcome

variable {α : Type}

/-- The report of a completed resource. -/
def report? : Outcome α → Option (Report α)
  | completed c => some c.report
  | _ => none

/-- Replaces the report of a completed resource. -/
def withReport (report : Report α) : Outcome α → Outcome α
  | completed c => completed { c with report }
  | o => o

/-- What is delivered for a resource; nothing if it is postponed. -/
def delivery? : Outcome α → Option (Report α)
  | completed c => some c.report
  | failed resource e => some (.failed resource e.message)
  | postponed .. => none

/-- Counts an outcome. -/
def countIn (c : Counters) : Outcome α → Counters
  | completed done => c.addProcessed.setClusters done.clusters
  | postponed .. => c.addPostponed
  | failed .. => c.addFailed

/-- Reports an outcome. -/
def event : Outcome α → Event α
  | completed done =>
    .reportGenerated done.report.resource done.report.actions done.clusters
      (done.report.savings.bind fun os => os.head?.map (·.amount))
  | postponed resource deadline kinds _ => .resourcePostponed resource kinds deadline.seconds
  | failed resource e => .resourceFailed resource e.step.name e.cause.message

end Outcome

namespace Job

variable {α : Type}

/-- The group a resource takes part in; only completed ones do. -/
def group? (job : Job α) (r : Resource) (o : Outcome α) : Option String :=
  if o.isCompleted then groupKey? r.tags job.policy.settings.groupTagKey else none

/-- Places of the completed resources of each group, groups ascending by name. -/
def groups (job : Job α) (outcomes : List (Outcome α)) : List (String × List Nat) :=
  let places := (job.resources.zip outcomes).zipIdx.filterMap fun ((r, o), i) =>
    (job.group? r o).map fun name => (name, i)
  let names := ((places.map (·.1)).eraseDups).mergeSort fun a b => ¬ b < a
  names.map fun name => (name, (places.filter (·.1 == name)).map (·.2))

/-- Where the report of a resource is delivered. -/
def resultKey (job : Job α) (r : Resource) : ResultKey :=
  ⟨job.customer, job.cloud, job.tenant, r.region, r.id⟩

/-- Delivers the reports in order; a resource whose report is refused has failed. -/
def deliver (job : Job α) : List (Resource × Outcome α) → Sink α → List (Outcome α) × Sink α
  | [], sink => ([], sink)
  | (r, o) :: rest, sink =>
    match o.delivery? with
    | none =>
      let (os, sink) := deliver job rest sink
      (o :: os, sink)
    | some report =>
      let (refusal, sink) := sink.append (job.resultKey r) report
      let (os, sink) := deliver job rest sink
      match refusal with
      | some reason => (.failed r.id ⟨.generateReports, .sink reason⟩ :: os, sink)
      | none => (o :: os, sink)

variable [Scalar α]

/-- The rules of a job whose policy is sound; settings are looked at first. -/
def rules? (job : Job α) (compiler : Pattern.Compiler) : Except JobFault RuleSet :=
  match job.policy.settings.validate with
  | .error e => .error (.settings e)
  | .ok () => (RuleSet.compile job.policy.rules compiler).mapError .rules

/-- Outcomes and history once some groups are reconciled, and the events of that. -/
structure Reconciliation (α : Type) where
  outcomes : List (Outcome α)
  history : History α
  events : List (Event α) := []

/-- Reconciles the members of one group. -/
def reconcileGroup (day : Day) (s : Reconciliation α) (group : String × List Nat) :
    Reconciliation α :=
  let members := group.2
  let reports := members.filterMap fun i => s.outcomes[i]?.bind Outcome.report?
  let (reports, history, counts) := Group.reconcile day s.history reports
  { outcomes := (members.zip reports).foldl (fun os (i, r) => os.modify i (Outcome.withReport r)) s.outcomes
    history
    events := s.events ++ [.groupReconciled group.1 members.length counts.total] }

/-- Reconciles every group that has several completed members. -/
def reconcile (job : Job α) (day : Day) (outcomes : List (Outcome α)) (history : History α) :
    Reconciliation α :=
  ((job.groups outcomes).filter fun g => 1 < g.2.length).foldl (reconcileGroup day)
    { outcomes, history }

/-- Everything after the last task of a job has ended. -/
def conclude (job : Job α) (day : Day) (f : FanOut α) (l : Ledger α) : Summary × Ledger α :=
  let reconciled := job.reconcile day (f.outcomes job.resources) (l.history.upsertAll f.writes)
  let (outcomes, sink) := job.deliver (job.resources.zip reconciled.outcomes) l.sink
  let summary := Summary.ofOutcomes job.id outcomes
  (summary,
   { history := reconciled.history
     sink
     counters := outcomes.foldl Outcome.countIn l.counters
     events := l.events ++ reconciled.events ++ outcomes.map Outcome.event ++
       [.jobFinished summary.status.name summary.completed summary.postponed summary.failed] })

end Job

/-- What runs jobs. -/
structure Runner (α : Type) where
  read : String → Except EngineError (Batch α)
  shapes : ShapeCatalog α
  prices : PriceCatalog α
  /-- What compiles the patterns of rules. -/
  compiler : Pattern.Compiler
  now : Instant
  /-- Resources processed at once. -/
  concurrency : Nat
  concurrency_pos : 0 < concurrency

namespace Runner

variable {α : Type} [Scalar α] (runner : Runner α)

omit [Scalar α] in
def engine (job : Job α) (rules : RuleSet) : Engine α :=
  ⟨runner.shapes, runner.prices, rules, job.policy.settings, job.customer, runner.now⟩

/-- The outcome of every resource, in order. -/
def outcomes (job : Job α) (rules : RuleSet) : List (Outcome α) :=
  job.resources.map ((runner.engine job rules).run runner.read)

/-- Runs a job; a job that does not start leaves everything as it is. -/
def run (job : Job α) (l : Ledger α) : Except JobFault (Summary × Ledger α) := do
  let rules ← job.rules? runner.compiler
  let started := { l with
    events := l.events ++ [.jobStarted job.resources.length runner.concurrency] }
  return job.conclude runner.now.day (.inOrder (runner.outcomes job rules)) started

end Runner

/-- What is at hand to build a runner from. -/
structure RunnerParts (α : Type) where
  read : Option (String → Except EngineError (Batch α)) := none
  shapes : Option (ShapeCatalog α) := none
  prices : Option (PriceCatalog α) := none
  compiler : Pattern.Compiler := .standard
  sink : Option (Sink α) := none
  history : Option (History α) := none
  concurrency : Nat
  now : Instant

/-- Why a runner cannot be built. -/
inductive RunnerFault where
  | noSource | noShapes | noPrices | noSink | noConcurrency
  deriving DecidableEq, Repr

def RunnerFault.message : RunnerFault → String
  | noSource => "Metrics reader is required"
  | noShapes => "Shape catalog is required"
  | noPrices => "Price catalog is required"
  | noSink => "Result sink is required"
  | noConcurrency => "Concurrency must be at least 1"

/-- A runner and its ledger; only the history may be missing. -/
def RunnerParts.build? {α : Type} (p : RunnerParts α) : Except RunnerFault (Runner α × Ledger α) := do
  let some read := p.read | .error .noSource
  let some shapes := p.shapes | .error .noShapes
  let some prices := p.prices | .error .noPrices
  let some sink := p.sink | .error .noSink
  if h : 0 < p.concurrency then
    return (⟨read, shapes, prices, p.compiler, p.now, p.concurrency, h⟩,
      { history := p.history.getD .empty, sink })
  else .error .noConcurrency

end FleetSizing
