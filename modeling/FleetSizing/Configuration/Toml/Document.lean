import FleetSizing.Configuration.Items
import FleetSizing.Configuration.Toml.Item
import FleetSizing.Configuration.Toml.Scalar

/-! Reading TOML documents. -/
namespace FleetSizing.Toml

/-- Fields of a table on one line up to its brace. -/
def inline? (value? : Text → Option (Json Float × Text)) :
    Nat → Entries → Text → Option (Entries × Text)
  | 0, _, _ => none
  | fuel + 1, es, cs => do
    let (names, r) ← names? cs
    let (j, r) ← value? (skipBlank (← mark? '=' r))
    let es ← Item.insert? names j es
    match skipBlank r with
    | ',' :: r => inline? value? fuel es r
    | '\x7d' :: r => return (es, r)
    | _ => none

/-- A value in which containers may nest so deep. -/
def value? : Nat → Text → Option (Json Float × Text)
  | levels, cs =>
    match levels, cs with
    | _, '"' :: _ | _, '\'' :: _ => (quoted? cs).map fun (s, r) => (.text s, r)
    | 0, '[' :: _ | 0, '\x7b' :: _ => none
    | levels + 1, '[' :: r =>
      (Configuration.items? skipTrivia? ']' (value? levels) (r.length + 1) r).map fun (js, r) =>
        (.list js, r)
    | levels + 1, '\x7b' :: r =>
      match skipBlank r with
      | '\x7d' :: r => some (.object [], r)
      | r => (inline? (value? levels) (r.length + 1) [] r).map fun (es, r) =>
          (.object (Item.toTable es), r)
    | _, cs => (scalar? (token cs)).map fun j => (j, cs.drop (token cs).length)

/-- A document as far as it has been read. -/
structure Progress where
  root : Entries := []
  /-- The table that fields go to. -/
  header : List String := []

namespace Progress

/-- Adds a field to the table of the last header. -/
def field? (p : Progress) (names : List String) (j : Json Float) : Option Progress := do
  let root ← Item.within? false (fun _ es => Item.insert? names j es) p.header .header p.root
  return { p with root }

/-- One line: a header, a field, or nothing. -/
def line? (p : Progress) (cs : Text) : Option (Progress × Text) := do
  match skipBlank cs with
  | '[' :: '[' :: r =>
    let (names, r) ← names? r
    let r ← mark? ']' (← mark? ']' r)
    return (⟨← Item.addElement? names p.root, names⟩, ← lineEnd? r)
  | '[' :: r =>
    let (names, r) ← names? r
    let r ← mark? ']' r
    return (⟨← Item.addTable? names p.root, names⟩, ← lineEnd? r)
  | r =>
    match lineEnd? r with
    | some rest => return (p, rest)
    | none =>
      let (names, r) ← names? r
      let (j, r) ← value? depthLimit (skipBlank (← mark? '=' r))
      return (← p.field? names j, ← lineEnd? r)

end Progress

def document? : Nat → Progress → Text → Option Entries
  | 0, _, _ => none
  | fuel + 1, p, cs =>
    if cs.isEmpty then some p.root
    else do
      let (p, r) ← p.line? cs
      document? fuel p r

/-- A whole document, after a byte order mark or none. -/
def read? (s : String) : Option Configuration.Table :=
  let cs := match s.toList with
    | '\ufeff' :: r => r
    | cs => cs
  (document? (cs.length + 1) {} cs).map Item.toTable

end FleetSizing.Toml
