import FleetSizing.Calendar.Instant
import FleetSizing.Error
import FleetSizing.Group
import FleetSizing.Text.Integer

/-! Postponements that resources carry in their tags. -/
namespace FleetSizing

/-- Kinds that are not to be recommended before an instant. -/
structure Postponement where
  deadline : Instant
  /-- Each once, in the order of declaration. -/
  kinds : List Kind
  deriving DecidableEq, Repr

def deadlineTag : String := "rightsizer:postponed-until"

def kindsTag : String := "rightsizer:postponed-actions"

/-- What is wrong with the tags of a postponement. -/
inductive PostponementFault where
  | notSeconds (text : String)
  | outOfRange (seconds : Int)
  | unknownKind (item : String)
  deriving DecidableEq, Repr

def PostponementFault.detail : PostponementFault → String
  | notSeconds text => deadlineTag ++ " is not epoch seconds: " ++ text
  | outOfRange s => deadlineTag ++ " is out of range: " ++ intText s
  | unknownKind item => kindsTag ++ " has an unknown type: " ++ item

def PostponementFault.error (f : PostponementFault) : EngineError := .validation f.detail

/-- A kind by name, in any ASCII case and between blanks. -/
def Kind.parse? (s : String) : Option Kind :=
  let name := (Blank.trim s).toList.map Char.toLower
  Kind.all.find? (·.name.toList == name)

/-- Text between commas. -/
def splitCommas (s : String) : List String :=
  let step (acc : List (List Char) × List Char) (c : Char) :=
    if c == ',' then (acc.2.reverse :: acc.1, []) else (acc.1, c :: acc.2)
  let (done, current) := s.toList.foldl step ([], [])
  ((current.reverse :: done).reverse).map String.ofList

namespace Postponement

/-- The kinds named in a list, blank items aside; fails at the first item that is none. -/
def namedKinds (list : String) : Except PostponementFault (List Kind) := do
  let items := (splitCommas list).filter fun item => !(Blank.trim item).isEmpty
  let kinds ← items.mapM fun item =>
    match Kind.parse? item with
    | some k => Except.ok k
    | none => Except.error (PostponementFault.unknownKind (Blank.trim item))
  return Kind.all.filter (kinds.contains ·)

/-- Every kind, unless the tags name some. -/
def kindsOf (tags : Tags) : Except PostponementFault (List Kind) :=
  match tags.lookup kindsTag with
  | none => .ok Kind.all
  | some list => namedKinds list

/-- The postponement in force at an instant, if the tags declare one. -/
def ofTags (tags : Tags) (now : Instant) : Except PostponementFault (Option Postponement) :=
  match tags.lookup deadlineTag with
  | none => .ok none
  | some text =>
    match parseInt64? (Blank.trim text) with
    | none => .error (.notSeconds text)
    | some seconds =>
      match Instant.ofSeconds? seconds with
      | none => .error (.outOfRange seconds)
      | some deadline =>
        if deadline.le now then .ok none
        else do
          let kinds ← kindsOf tags
          return if kinds.isEmpty then none else some ⟨deadline, kinds⟩

def covers (p : Postponement) (k : Kind) : Bool := p.kinds.contains k

def coversAll (p : Postponement) : Bool := Kind.all.all p.covers

/-- Whether an action is of a postponed kind. -/
def coversAction (p : Postponement) (a : Action) : Bool :=
  match a.kind? with
  | some k => p.covers k
  | none => false

end Postponement

end FleetSizing
