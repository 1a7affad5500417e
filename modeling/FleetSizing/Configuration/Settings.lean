import FleetSizing.Json.Value
import FleetSizing.Text.Integer
import FleetSizing.Unicode.Case

/-! Settings of several sources: values under paths, which are put into one table after another. -/
namespace FleetSizing.Configuration

abbrev Text := List Char

/-- Values by name. -/
abbrev Table := List (String × Json Float)

/-- A step from a value into it; an index below zero counts from the end. -/
inductive Step where
  | name (s : String)
  | index (i : Int)
  deriving DecidableEq, Repr

/-- A name and the steps from there. -/
structure Path where
  root : String
  steps : List Step := []
  deriving DecidableEq, Repr

namespace Path

def isNamePart (c : Char) : Bool := c.isAlphanum || c == ' ' || c == '_' || c == '-'

def name? (cs : Text) : Option (String × Text) :=
  let name := cs.takeWhile isNamePart
  if name.isEmpty then none else some (String.ofList name, cs.drop name.length)

def skipBlank (cs : Text) : Text := cs.dropWhile fun c => c == ' ' || c == '\t'

/-- A number in brackets, with blanks around it; digits may follow a minus sign. -/
def index? (cs : Text) : Option (Int × Text) := do
  let r := skipBlank cs
  let sign := r.takeWhile (· == '-')
  let digits := (r.drop sign.length).takeWhile Char.isDigit
  let i ← (integerIn? 10 (sign ++ digits)).filter (isSigned 64)
  match skipBlank (r.drop (sign.length + digits.length)) with
  | ']' :: r => return (i, r)
  | _ => none

def steps? : Nat → Text → Option (List Step)
  | _, [] => some []
  | 0, _ => none
  | fuel + 1, '.' :: r => do
    let (s, r) ← name? r
    return .name s :: (← steps? fuel r)
  | fuel + 1, '[' :: r => do
    let (i, r) ← index? r
    return .index i :: (← steps? fuel r)
  | _, _ => none

/-- The path a key spells; a key that spells none is a name as a whole. -/
def ofKey (key : String) : Path :=
  let path? := do
    let (root, r) ← name? key.toList
    return ({ root, steps := ← steps? r.length r } : Path)
  path?.getD { root := key }

end Path

def tableOf : Json Float → Table
  | .object t => t
  | _ => []

def listOf : Json Float → List (Json Float)
  | .list xs => xs
  | _ => []

/-- Changes what stands under a name; what is no table becomes one. -/
def atName (name : String) (fresh : Json Float) (f : Json Float → Json Float) (j : Json Float) :
    Json Float :=
  let t := tableOf j
  .object (Json.assign name (f ((Json.lookup name t).getD fresh)) t)

/-- Changes what stands at an index; what is no list becomes one, and is filled up with nulls. -/
def atIndex (i : Int) (f : Json Float → Json Float) (j : Json Float) : Json Float :=
  let xs := listOf j
  let k := (if i < 0 then xs.length + i else i).toNat
  .list ((xs ++ List.replicate (k + 1 - xs.length) Json.null).modify k f)

mutual

/-- Puts a value under a name, in lower case. A table goes into the table that is there, field by
field; any other value takes the place of what is there. -/
def putName (name : String) (value j : Json Float) : Json Float :=
  let key := Unicode.toLower name
  match value with
  | .object fields => atName key (.object []) (putFields fields) j
  | value => atName key .null (fun _ => value) j

def putFields (fields : List (String × Json Float)) (j : Json Float) : Json Float :=
  match fields with
  | [] => j
  | (name, value) :: rest => putFields rest (putName name value j)

end

/-- Changes what a step leads to. -/
def Step.change : Step → (Json Float → Json Float) → Json Float → Json Float
  | .name s => atName s .null
  | .index i => atIndex i

/-- Puts a value where a step leads to. -/
def Step.put : Step → Json Float → Json Float → Json Float
  | .name s, value => putName s value
  | .index i, value => atIndex i fun _ => value

/-- Goes along the steps up to the last, and puts the value there. -/
def putAlong (value : Json Float) : List Step → Json Float → Json Float
  | [], _ => value
  | [s], j => s.put value j
  | s :: rest, j => s.change (putAlong value rest) j

def Path.put (p : Path) (value : Json Float) (t : Table) : Table :=
  tableOf (putAlong value (.name p.root :: p.steps) (.object t))

/-- The settings of one source put over those of another. -/
def overlay (lower upper : Table) : Table :=
  upper.foldl (fun t (key, value) => (Path.ofKey key).put value t) lower

end FleetSizing.Configuration
