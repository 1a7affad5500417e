/-! What can be recommended for a resource. -/
namespace FleetSizing

/-- Provider a shape belongs to. -/
inductive Cloud where
  | aws | azure | google
  deriving DecidableEq, Repr, Inhabited

def Cloud.all : List Cloud := [.aws, .azure, .google]

def Cloud.name : Cloud → String
  | .aws => "AWS" | .azure => "AZURE" | .google => "GOOGLE"

/-- Kinds of recommendation that history and postponement distinguish. -/
inductive Kind where
  | schedule | resize | split | shutdown
  deriving DecidableEq, Repr, Inhabited

namespace Kind

def all : List Kind := [schedule, resize, split, shutdown]

def name : Kind → String
  | schedule => "schedule" | resize => "resize" | split => "split" | shutdown => "shutdown"

/-- Place in the order of declaration. -/
def rank : Kind → Nat
  | schedule => 0 | resize => 1 | split => 2 | shutdown => 3

theorem mem_all (k : Kind) : k ∈ all := by cases k <;> decide

theorem rank_inj {a b : Kind} (h : a.rank = b.rank) : a = b := by
  cases a <;> cases b <;> simp_all [rank]

end Kind

/-- What a report proposes. -/
inductive Action where
  | schedule | shutdown | scaleUp | scaleDown | changeShape | split | noAction | error
  deriving DecidableEq, Repr, Inhabited

namespace Action

def all : List Action :=
  [schedule, shutdown, scaleUp, scaleDown, changeShape, split, noAction, error]

def name : Action → String
  | schedule => "SCHEDULE" | shutdown => "SHUTDOWN" | scaleUp => "SCALE_UP"
  | scaleDown => "SCALE_DOWN" | changeShape => "CHANGE_SHAPE" | split => "SPLIT"
  | noAction => "NO_ACTION" | error => "ERROR"

/-- Replaces the shape of the resource. -/
def isResize : Action → Bool
  | scaleUp | scaleDown | changeShape | shutdown => true
  | _ => false

/-- The kind of recommendation an action is recorded under. -/
def kind? : Action → Option Kind
  | schedule => some .schedule
  | scaleUp | scaleDown | changeShape => some .resize
  | split => some .split
  | shutdown => some .shutdown
  | noAction | error => none

end Action

end FleetSizing
