import FleetSizing.Calendar.Instant
import FleetSizing.Keyed
import FleetSizing.Report

/-! What was recommended, or postponed, for each resource, kind and day. -/
namespace FleetSizing

inductive EntryStatus where
  | recommended | postponed
  deriving DecidableEq, Repr, Inhabited

def EntryStatus.all : List EntryStatus := [.recommended, .postponed]

def EntryStatus.name : EntryStatus → String
  | recommended => "recommended" | postponed => "postponed"

/-- A history entry stands under its resource, kind and day. -/
structure EntryKey where
  resource : String
  kind : Kind
  day : Day
  deriving DecidableEq, Repr

structure Entry (α : Type) where
  resource : String
  kind : Kind
  day : Day
  /-- Unknown if the resource was postponed before its samples were read. -/
  currentShape : Option String
  currentMonthlyPrice : Option α
  action : Action
  target : Option (Target α)
  savings : List (Saving α)
  status : EntryStatus
  postponedUntil : Option Instant
  deriving BEq, Inhabited

/-- What the entries of one run of a resource share. -/
structure EntryContext (α : Type) where
  day : Day
  currentShape : String
  currentMonthlyPrice : Option α

namespace Report

variable {α : Type}

/-- The first action of a kind. -/
def actionOf? (r : Report α) (k : Kind) : Option Action := r.actions.find? (·.kind? == some k)

/-- The options that propose an action. -/
def savingsOf (r : Report α) (a : Action) : List (Saving α) :=
  (r.savings.getD []).filter (·.action == a)

variable [Scalar α]

/-- Where an action leads: the target of its best option, else what the report itself says. -/
def targetOf? (r : Report α) (a : Action) : Option (Target α) :=
  match (r.savingsOf a).head?.bind (·.target) with
  | some t => some t
  | none =>
    match a with
    | .schedule => r.customSchedule?.map .schedule
    | .split => some (.split (r.offers.map fun o =>
        ⟨o.shape.name, ((0 : Nat) : α), o.probability.getD ((0 : Nat) : α)⟩))
    | .shutdown => none
    | _ => r.offers.head?.map fun o => .shape o.shape.name

end Report

namespace Entry

variable {α : Type}

def key (e : Entry α) : EntryKey := ⟨e.resource, e.kind, e.day⟩

/-- Says not to recommend a kind before an instant. -/
def postponedFor (resource : String) (kind : Kind) (day : Day) (currentShape : Option String)
    (deadline : Instant) : Entry α :=
  { resource, kind, day, currentShape
    currentMonthlyPrice := none
    action := .noAction
    target := none
    savings := []
    status := .postponed
    postponedUntil := some deadline }

variable [Scalar α]

/-- The entry with what a report now says for its kind. -/
def syncWith (e : Entry α) (r : Report α) : Entry α :=
  match r.actionOf? e.kind with
  | some a => { e with action := a, target := r.targetOf? a, savings := r.savingsOf a }
  | none => { e with action := .noAction, target := none, savings := [] }

/-- The entry that an action of a report is recorded by. -/
def ofAction? (r : Report α) (c : EntryContext α) (a : Action) : Option (Entry α) :=
  a.kind?.map fun kind =>
    { resource := r.resource
      kind
      day := c.day
      currentShape := some c.currentShape
      currentMonthlyPrice := c.currentMonthlyPrice
      action := a
      target := r.targetOf? a
      savings := r.savingsOf a
      status := .recommended
      postponedUntil := none }

end Entry

/-- The entries of a report, one for each action that has a kind. -/
def Report.entries {α : Type} [Scalar α] (r : Report α) (c : EntryContext α) : List (Entry α) :=
  r.actions.filterMap (Entry.ofAction? r c)

/-- Entries under their keys. A sealed history refuses every write. -/
structure History (α : Type) where
  store : Keyed (Entry.key (α := α)) := .empty
  isSealed : Bool := false

namespace History

variable {α : Type}

def empty : History α := {}

/-- Writes an entry in place of the one with its key; nothing changes if the write is refused. -/
def upsert (h : History α) (e : Entry α) : History α :=
  if h.isSealed then h else { h with store := h.store.insert e }

def upsertAll (h : History α) (es : List (Entry α)) : History α := es.foldl upsert h

def get? (h : History α) (resource : String) (kind : Kind) (day : Day) : Option (Entry α) :=
  h.store.get? ⟨resource, kind, day⟩

def size (h : History α) : Nat := h.store.size

/-- Ordered by resource, day and kind. -/
def entryBefore (a b : Entry α) : Bool :=
  a.resource < b.resource || (a.resource == b.resource &&
    (a.day.number < b.day.number || (a.day == b.day && a.kind.rank ≤ b.kind.rank)))

def entries (h : History α) : List (Entry α) := h.store.values.mergeSort entryBefore

/-- The entries of a resource, oldest first. -/
def forResource (h : History α) (resource : String) : List (Entry α) :=
  (h.store.values.filter (·.resource == resource)).mergeSort fun a b =>
    a.day.number < b.day.number || (a.day == b.day && a.kind.rank ≤ b.kind.rank)

end History

end FleetSizing
