import FleetSizing.Configuration.Settings

/-! Items between commas, which several notations share. -/
namespace FleetSizing.Configuration

/-- Items between commas up to a closing mark; a comma may follow the last item. What may stand
between is left to the notation, and may be malformed. -/
def items? {β : Type} (skip? : Text → Option Text) (close : Char)
    (item? : Text → Option (β × Text)) : Nat → Text → Option (List β × Text)
  | 0, _ => none
  | fuel + 1, cs => do
    match ← skip? cs with
    | [] => none
    | c :: r =>
      if c = close then return ([], r)
      else
        let (x, r) ← item? (c :: r)
        match ← skip? r with
        | ',' :: r =>
          let (xs, r) ← items? skip? close item? fuel r
          return (x :: xs, r)
        | c :: r => if c = close then return ([x], r) else none
        | [] => none

/-- A table of fields, of which the last of a name counts. -/
def tableOfFields (fields : List (String × Json Float)) : Json Float :=
  .object (fields.foldl (fun acc (name, j) => Json.assign name j acc) [])

end FleetSizing.Configuration
