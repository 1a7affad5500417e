import FleetSizing.Action
import FleetSizing.Json.Value

/-! Events of a job, as its log shows them. -/
namespace FleetSizing

inductive Event (α : Type) where
  | jobStarted (resources concurrency : Nat)
  | jobFinished (status : String) (completed postponed failed : Nat)
  | reportGenerated (resource : String) (actions : List Action) (clusters : Nat)
      (bestSaving : Option α)
  | resourcePostponed (resource : String) (kinds : List Kind) (deadline : Int)
  | resourceFailed (resource step reason : String)
  | groupReconciled (group : String) (members neutralized : Nat)
  deriving Inhabited

namespace Event

variable {α : Type}

def name : Event α → String
  | jobStarted .. => "job_started"
  | jobFinished .. => "job_finished"
  | reportGenerated .. => "report_generated"
  | resourcePostponed .. => "resource_postponed"
  | resourceFailed .. => "resource_failed"
  | groupReconciled .. => "group_reconciled"

/-- Only a failed resource is worth a warning. -/
def level : Event α → String
  | resourceFailed .. => "WARN"
  | _ => "INFO"

def message : Event α → String
  | jobStarted .. => "Rightsizing job started"
  | jobFinished .. => "Rightsizing job finished"
  | reportGenerated .. => "Recommendation generated"
  | resourcePostponed .. => "Recommendation postponed"
  | resourceFailed .. => "Resource processing failed"
  | groupReconciled .. => "Resource group reconciled"

/-- A saving that may be missing. -/
def savingText : Option Float → String
  | none => "None"
  | some x => "Some(" ++ Decimal.event.text x ++ ")"

def count (n : Nat) : Json α := .int n

/-- What an event says beyond its kind. -/
def details : Event Float → List (String × Json Float)
  | jobStarted resources concurrency =>
    [("resources", count resources), ("concurrency", count concurrency)]
  | jobFinished status completed postponed failed =>
    [("status", .text status), ("completed", count completed), ("postponed", count postponed),
     ("failed", count failed)]
  | reportGenerated resource actions clusters bestSaving =>
    [("resource_id", .text resource), ("actions", .text (",".intercalate (actions.map (·.name)))),
     ("clusters", count clusters), ("best_saving", .text (savingText bestSaving))]
  | resourcePostponed resource kinds deadline =>
    [("resource_id", .text resource), ("types", .text (",".intercalate (kinds.map (·.name)))),
     ("postponed_until", .int deadline)]
  | resourceFailed resource step reason =>
    [("resource_id", .text resource), ("step", .text step), ("reason", .text reason)]
  | groupReconciled group members neutralized =>
    [("group", .text group), ("members", count members), ("neutralized", count neutralized)]

/-- One record of the log of a job. -/
def toJson (job : String) (e : Event Float) : Json Float :=
  .object <| [("level", .text e.level), ("message", .text e.message), ("event", .text e.name),
    ("job_id", .text job)] ++ e.details

end Event

end FleetSizing
