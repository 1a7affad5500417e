import FleetSizing.Selection.Requirement
import FleetSizing.Selection.Series
import FleetSizing.Selection.Vendor

/-! Ranked candidates for a resource. -/
namespace FleetSizing

/-- How close a candidate is to the current shape. -/
inductive Tier where
  | sameSeries | sameFamily | other
  deriving DecidableEq, Repr, Inhabited

def Tier.rank : Tier → Nat
  | sameSeries => 0 | sameFamily => 1 | other => 2

/-- A shape with what decides its place. -/
structure Candidate (α : Type) where
  shape : Shape α
  /-- Segment of the ranking; preferred shapes come first, then the tiers. -/
  segment : Nat
  price : Option α
  deriving Inhabited

namespace Selection

variable {α : Type}

def tier (current candidate : Shape α) : Tier :=
  if Series.ofName current.cloud candidate.name = Series.ofName current.cloud current.name then
    .sameSeries
  else if !current.family.isEmpty && sameAsciiText candidate.family current.family then .sameFamily
  else .other

def tierAllowed (s : Settings α) (t : Tier) : Bool :=
  if s.forbidChangeSeries then t == .sameSeries
  else if s.forbidChangeFamily then t != .other
  else true

/-- Matched by some rule of an action for the cloud. -/
def matched (rules : RuleSet) (action : RuleAction) (cloud : Cloud) (s : Shape α) : Bool :=
  (rules.stage action cloud).any (·.accepts s)

/-- Denied by no rule, and allowed by some if there are any. -/
def permitted (rules : RuleSet) (cloud : Cloud) (s : Shape α) : Bool :=
  !matched rules .deny cloud s &&
    ((rules.stage .allow cloud).isEmpty || matched rules .allow cloud s)

def segment (rules : RuleSet) (current s : Shape α) : Nat :=
  if matched rules .prioritize current.cloud s then 0 else (tier current s).rank + 1

variable [Scalar α]

/-- May be recommended at all. -/
def eligible (rules : RuleSet) (settings : Settings α) (current : Shape α) (r : Requirement α)
    (s : Shape α) : Bool :=
  s.cloud == current.cloud && r.satisfiedBy s && current.isCompatible settings.compatibility s &&
    tierAllowed settings (tier current s) && permitted rules current.cloud s

/-- Smaller by cpu, then by memory. -/
def smallerSize (a b : Shape α) : Bool :=
  a.cpu < b.cpu || (!(b.cpu < a.cpu : Bool) && a.memory < b.memory)

/-- Unpriced shapes cost more than any other. -/
def cheaper : Option α → Option α → Bool
  | some a, some b => a < b
  | some a, none => Scalar.isBounded a
  | none, _ => false

/-- Strictly earlier in the ranking. -/
def precedes (sorting : Sorting) (a b : Candidate α) : Bool :=
  a.segment < b.segment || (a.segment == b.segment &&
    match sorting with
    | .size => smallerSize a.shape b.shape
    | .price => cheaper a.price b.price)

/-- All eligible shapes in rank order; ties keep the order of the catalog. -/
def ranking (rules : RuleSet) (settings : Settings α) (price : Shape α → Option α)
    (current : Shape α) (r : Requirement α) (catalog : List (Shape α)) : List (Shape α) :=
  let candidates := (catalog.filter (eligible rules settings current r)).map fun s =>
    (⟨s, segment rules current s, price s⟩ : Candidate α)
  (candidates.mergeSort fun a b => !precedes settings.sorting b a).map (·.shape)

/-- The best shapes, as many as the settings ask for. -/
def select (rules : RuleSet) (settings : Settings α) (price : Shape α → Option α)
    (current : Shape α) (r : Requirement α) (catalog : List (Shape α)) : List (Shape α) :=
  (ranking rules settings price current r catalog).take settings.maxRecommendedShapes

end Selection

end FleetSizing
