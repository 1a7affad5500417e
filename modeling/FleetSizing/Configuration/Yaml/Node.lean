import FleetSizing.Configuration.Items
import FleetSizing.Configuration.Yaml.Tag
import FleetSizing.Text.Nearest

/-! Values of a YAML document, and what they are as settings. -/
namespace FleetSizing.Yaml

inductive Node where
  /-- A scalar that is not of the kind its tag asks for, or an alias of what is not complete. -/
  | bad
  | null
  | bool (b : Bool)
  | int (n : Int)
  /-- The text of a number with a point or an exponent. -/
  | real (s : String)
  | text (s : String)
  | list (xs : List Node)
  | map (entries : List (Node × Node))
  deriving BEq, Inhabited

namespace Node

/-- Infinities and what is no number have texts of their own, with a point before them. -/
def isReal (s : String) : Bool :=
  [".inf", ".Inf", ".INF", "+.inf", "+.Inf", "+.INF", "-.inf", "-.Inf", "-.INF", ".nan", ".NaN",
    ".NAN"].contains s || (parseDouble? s.toList).isSome

def ofInt? (s : String) : Option Node := (parseInt64? s).map int

/-- An integer to base 16 or 8, or after a plus sign. -/
def ofMarkedInt? (s : String) : Option Node :=
  match s.toList with
  | '0' :: 'x' :: r => ((integerIn? 16 r).filter (isSigned 64)).map int
  | '0' :: 'o' :: r => ((integerIn? 8 r).filter (isSigned 64)).map int
  | '+' :: r => ofInt? (String.ofList r)
  | _ => none

/-- A plain scalar. -/
def ofPlain (s : String) : Node :=
  (ofMarkedInt? s).getD <|
    match s with
    | "" | "~" | "null" => null
    | "true" => bool true
    | "false" => bool false
    | s => (ofInt? s).getD (if isReal s then real s else text s)

/-- Tags of this start name the kinds of plain scalars. -/
def kindStart : String := "tag:yaml.org,2002:"

/-- A plain scalar with a tag; other tags than those of kinds leave it a text. -/
def ofTagged (t : Tag) (s : String) : Node :=
  if t.handle ≠ kindStart then text s
  else match t.suffix with
    | "bool" => if s = "true" then bool true else if s = "false" then bool false else bad
    | "int" => (ofInt? s).getD bad
    | "float" => if isReal s then real s else bad
    | "null" => if s = "~" ∨ s = "null" then null else bad
    | _ => text s

/-- A scalar that is not plain is a text, whatever its tag. -/
def ofScalar (isPlain : Bool) (t? : Option Tag) (s : String) : Node :=
  match isPlain, t? with
  | false, _ => text s
  | true, none => ofPlain s
  | true, some t => ofTagged t s

/-- Entries out of keys and values in turn; no key may come twice. A node of the wrong kind is no
key, so that the node after it is taken for one. -/
def entriesFrom? : Node → List (Node × Node) → List Node → Option (List (Node × Node))
  | _, es, [] => some es
  | key, es, n :: rest =>
    if key == bad then entriesFrom? n es rest
    else if es.any (·.1 == key) then none
    else entriesFrom? bad (es ++ [(key, n)]) rest

def ofTurns? (ns : List Node) : Option Node := (entriesFrom? bad [] ns).map map

/-- The name that a key is for a setting. -/
def name? : Node → Option String
  | text s => some s
  | int n => some (intText n)
  | _ => none

mutual

/-- The value as a setting; texts of numbers have to be readable. -/
def toJson? : Node → Option (Json Float)
  | bad | null => some .null
  | bool b => some (.bool b)
  | int n => some (.int n)
  | real s => (parseDouble? s.toList).map .real
  | text s => some (.text s)
  | list xs => (toList? xs).map .list
  | map es => (toFields? es).map Configuration.tableOfFields

def toList? : List Node → Option (List (Json Float))
  | [] => some []
  | n :: rest => do return (← n.toJson?) :: (← toList? rest)

/-- Entries by name; others are left out. -/
def toFields? : List (Node × Node) → Option (List (String × Json Float))
  | [] => some []
  | (key, n) :: rest => do
    let fields ← toFields? rest
    match key.name? with
    | some name => return (name, ← n.toJson?) :: fields
    | none => return fields

end

end Node

end FleetSizing.Yaml
