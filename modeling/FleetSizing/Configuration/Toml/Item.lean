import FleetSizing.Configuration.Settings

/-! Tables of a TOML document while it is read: what may still be added to a table depends on how it
came about. -/
namespace FleetSizing.Toml

/-- How a table came about: by a header of its own, by the header of a table inside it, or by names
joined with dots. -/
inductive Origin where
  | header | inner | dotted
  deriving DecidableEq, Repr

inductive Item where
  /-- Nothing can be added to a value. -/
  | value (j : Json Float)
  | table (origin : Origin) (entries : List (String × Item))
  /-- Tables that share a header; names lead into the last one. -/
  | tables (elements : List (List (String × Item)))

abbrev Entries := List (String × Item)

namespace Item

def lookup (name : String) (es : Entries) : Option Item :=
  (es.find? (·.1 == name)).map (·.2)

/-- Sets an entry, keeping its place if it is there already. -/
def assign (name : String) (item : Item) (es : Entries) : Entries :=
  if es.any (·.1 == name) then es.map fun e => if e.1 == name then (name, item) else e
  else es ++ [(name, item)]

/-- Changes the table that names lead to. Names of a header enter any table; names joined with dots
before a value enter none that has a header. Tables that are missing come about on the way. -/
def within? (dotted : Bool) (change : Origin → Entries → Option Entries) :
    List String → Origin → Entries → Option Entries
  | [], origin, es => change origin es
  | name :: rest, _, es => do
    let item ← match lookup name es with
      | none =>
        let origin := if dotted then .dotted else .inner
        (within? dotted change rest origin []).map (.table origin)
      | some (.value _) => none
      | some (.table origin inner) =>
        if dotted ∧ origin = .header then none
        else (within? dotted change rest origin inner).map (.table origin)
      | some (.tables elements) => do
        let changed ← within? dotted change rest .header (elements.getLastD [])
        some (.tables (elements.dropLast ++ [changed]))
    return assign name item es

/-- Adds a value under names; the table it goes to has to be one that such names made, unless the
value has a single name. -/
def insert? (names : List String) (j : Json Float) (es : Entries) : Option Entries := do
  let name ← names.getLast?
  let path := names.dropLast
  let add (origin : Origin) (es : Entries) : Option Entries :=
    if (origin == .dotted) == path.isEmpty || (lookup name es).isSome then none
    else some (es ++ [(name, .value j)])
  within? true add path .header es

/-- Adds the header of a table, which may be there without one. -/
def addTable? (names : List String) (es : Entries) : Option Entries := do
  let name ← names.getLast?
  let add (_ : Origin) (es : Entries) : Option Entries :=
    match lookup name es with
    | none => some (es ++ [(name, .table .header [])])
    | some (.table .inner entries) => some (assign name (.table .header entries) es)
    | some _ => none
  within? false add names.dropLast .header es

/-- Adds one more table to those that share a header. -/
def addElement? (names : List String) (es : Entries) : Option Entries := do
  let name ← names.getLast?
  let add (_ : Origin) (es : Entries) : Option Entries :=
    match lookup name es with
    | none => some (es ++ [(name, .tables [[]])])
    | some (.tables elements) => some (assign name (.tables (elements ++ [[]])) es)
    | some _ => none
  within? false add names.dropLast .header es

mutual

def toJson : Item → Json Float
  | value j => j
  | table _ es => .object (toTable es)
  | tables ts => .list (toList ts)

def toTable : Entries → Configuration.Table
  | [] => []
  | (name, item) :: rest => (name, item.toJson) :: toTable rest

def toList : List Entries → List (Json Float)
  | [] => []
  | es :: rest => .object (toTable es) :: toList rest

end

end Item

end FleetSizing.Toml
