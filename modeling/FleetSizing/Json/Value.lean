import FleetSizing.Powers
import FleetSizing.Scalar

/-! JSON values, and how records, options and names are read from them. -/
namespace FleetSizing

/-- A JSON value; object fields keep their order and their repetitions. -/
inductive Json (α : Type) where
  | null
  | bool (b : Bool)
  | int (n : Int)
  | real (x : α)
  | text (s : String)
  | list (xs : List (Json α))
  | object (fields : List (String × Json α))
  /-- Well-formed text without a value: a number or an escape out of range, or nesting too deep. -/
  | unreadable
  deriving Inhabited, BEq

namespace Json

variable {α β : Type}

instance : Coe String (Json α) := ⟨.text⟩

def ofOption (f : β → Json α) : Option β → Json α
  | none => .null
  | some x => f x

/-- A number; null in place of one that is not finite. -/
def ofReal [Scalar α] (x : α) : Json α := if Scalar.isFinite x then .real x else .null

def ofList (f : β → Json α) (xs : List β) : Json α := .list (xs.map f)

def ofTexts (xs : List String) : Json α := ofList .text xs

/-- A field that is left out if there is no value. -/
def given (name : String) (f : β → Json α) : Option β → List (String × Json α)
  | none => []
  | some x => [(name, f x)]

/-- The value of a field that occurs once; the first, should it occur more often. -/
def lookup (name : String) : List (String × Json α) → Option (Json α)
  | [] => none
  | (key, value) :: rest => if key = name then some value else lookup name rest

/-- Sets a field, keeping its place if it is there already. -/
def assign (name : String) (value : Json α) : List (String × Json α) → List (String × Json α)
  | [] => [(name, value)]
  | (key, old) :: rest =>
    if key = name then (name, value) :: rest else (key, old) :: assign name value rest

mutual

/-- The value in which every object field occurs once, the last occurrence winning; none if some
part is unreadable. -/
def canonical? : Json α → Option (Json α)
  | .list xs => (canonicalList? xs).map .list
  | .object fields => (canonicalFields? fields).map fun fs =>
      .object (fs.foldl (fun acc (key, value) => assign key value acc) [])
  | .unreadable => none
  | j => some j

def canonicalList? : List (Json α) → Option (List (Json α))
  | [] => some []
  | j :: rest => do return (← canonical? j) :: (← canonicalList? rest)

def canonicalFields? : List (String × Json α) → Option (List (String × Json α))
  | [] => some []
  | (key, j) :: rest => do return (key, ← canonical? j) :: (← canonicalFields? rest)

end

def text? : Json α → Option String
  | .text s => some s
  | _ => none

def bool? : Json α → Option Bool
  | .bool b => some b
  | _ => none

/-- An integer within bounds; a number written with a point or an exponent is none. -/
def int? (lo hi : Int) : Json α → Option Int
  | .int n => if lo ≤ n ∧ n ≤ hi then some n else none
  | _ => none

/-- A natural number below `2 ^ bits`. -/
def nat? (bits : Nat) (j : Json α) : Option Nat := (j.int? 0 (pow2 bits - 1)).map Int.toNat

/-- A signed 64-bit integer. -/
def int64? (j : Json α) : Option Int := j.int? (-(pow2 63 : Int)) (pow2 63 - 1)

/-- Any number. -/
def real? [Scalar α] : Json α → Option α
  | .int n => some (n : α)
  | .real x => some x
  | _ => none

def list? (dec : Json α → Option β) : Json α → Option (List β)
  | .list xs => xs.mapM dec
  | _ => none

def optional? (dec : Json α → Option β) : Json α → Option (Option β)
  | .null => some none
  | j => (dec j).map some

/-- A choice without content: its name, or an object that gives the name an empty content. -/
def name? : Json α → Option String
  | .text s => some s
  | .object [(key, .null)] => some key
  | _ => none

/-- A choice out of named values. -/
def oneOf? (values : List β) (nameOf : β → String) (j : Json α) : Option β := do
  let s ← j.name?
  values.find? (nameOf · == s)

/-- How often a field occurs. -/
def occurrences (name : String) (fields : List (String × Json α)) : Nat :=
  fields.countP (·.1 == name)

/-- A choice by the text of its tag: its fields beside the tag, or after it in order. -/
def tagged? (tag : String) (j : Json α) : Option (String × Json α) := do
  let _ ← canonical? j
  match j with
  | .object fields =>
    if occurrences tag fields = 1 then
      let kind ← (← lookup tag fields).text?
      return (kind, .object (fields.filter (·.1 != tag)))
    else none
  | .list (.text kind :: rest) => some (kind, .list rest)
  | _ => none

/-- Text keys to text values, the last occurrence of a key winning. -/
def texts? : Json α → Option (List (String × String))
  | .object fields => do
    let pairs ← fields.mapM fun (key, j) => do return (key, ← j.text?)
    return pairs.foldl (fun acc (key, s) => (acc.filter (·.1 != key)) ++ [(key, s)]) []
  | _ => none

/-- The named fields of a record, given by name or in order of declaration. -/
structure Record (α : Type) where
  byPosition : Bool
  fields : List (String × Json α)

/-- A record given by name; none of the given names may occur twice. -/
def named? (names : List String) : Json α → Option (Record α)
  | .object fields =>
    if names.all (occurrences · fields ≤ 1) then some ⟨false, fields⟩ else none
  | _ => none

/-- A record given by name or by position. -/
def record? (names : List String) : Json α → Option (Record α)
  | .list xs => if xs.length ≤ names.length then some ⟨true, names.zip xs⟩ else none
  | j => named? names j

namespace Record

def get? (r : Record α) (name : String) : Option (Json α) := lookup name r.fields

def required (r : Record α) (name : String) (dec : Json α → Option β) : Option β :=
  (r.get? name).bind dec

/-- A missing field takes the default; a field that is there has to be readable. -/
def withDefault (r : Record α) (name : String) (default : β) (dec : Json α → Option β) : Option β :=
  match r.get? name with
  | none => some default
  | some j => dec j

/-- A field that may be null, and may be missing from a record given by name. -/
def optional (r : Record α) (name : String) (dec : Json α → Option β) : Option (Option β) :=
  match r.get? name with
  | none => if r.byPosition then none else some none
  | some j => optional? dec j

/-- The fields outside the given names, the last occurrence of a name winning; each has to be
readable. -/
def others? (r : Record α) (names : List String) : Option (List (String × Json α)) := do
  let rest ← canonicalFields? (r.fields.filter (!names.contains ·.1))
  return rest.foldl (fun acc (key, value) => assign key value acc) []

end Record

end Json

end FleetSizing
