import FleetSizing.Action

/-! Why a job, a resource or one action of it cannot be served. -/
namespace FleetSizing

inductive EngineError where
  | validation (detail : String)
  | configuration (detail : String)
  | metricSource (detail : String)
  | lookupMiss (detail : String)
  | savings (action : Action) (reason : String)
  | sink (reason : String)
  | internal (detail : String)
  deriving DecidableEq, Repr

def EngineError.message : EngineError → String
  | validation d => "validation failed: " ++ d
  | configuration d => "invalid configuration: " ++ d
  | metricSource d => "metric source failed: " ++ d
  | lookupMiss d => "lookup miss: " ++ d
  | savings a r => "savings for " ++ a.name ++ " could not be computed: " ++ r
  | sink r => "result sink failed: " ++ r
  | internal d => "internal error: " ++ d

def EngineError.isValidation : EngineError → Bool
  | validation _ => true
  | _ => false

/-- Stages a resource passes through. -/
inductive Step where
  | initialization | downloadMetrics | validateMetrics | prepareAlgorithm | processMetrics
  | generateReports
  deriving DecidableEq, Repr

def Step.all : List Step :=
  [.initialization, .downloadMetrics, .validateMetrics, .prepareAlgorithm, .processMetrics,
   .generateReports]

def Step.name : Step → String
  | initialization => "INITIALIZATION"
  | downloadMetrics => "DOWNLOAD_METRICS"
  | validateMetrics => "VALIDATE_METRICS"
  | prepareAlgorithm => "INITIALIZE_ALGORITHM"
  | processMetrics => "PROCESS_METRICS"
  | generateReports => "GENERATE_REPORTS"

/-- The failure of one stage for one resource. -/
structure StepError where
  step : Step
  cause : EngineError
  deriving DecidableEq, Repr

def StepError.message (e : StepError) : String := e.step.name ++ ": " ++ e.cause.message

end FleetSizing
