import FleetSizing.Json.Value
import FleetSizing.Text.Nearest

/-! Reading JSON text. -/
namespace FleetSizing.Json

abbrev Text := List Char

def isBlank (c : Char) : Bool := c == ' ' || c == '\n' || c == '\t' || c == '\r'

def skipBlank (cs : Text) : Text := cs.dropWhile isBlank

/-- The nearest double, which has to be finite. -/
def nearestReal (negative : Bool) (digits : Nat) (e : Int) : Json Float :=
  let x := decimalDouble digits e
  if x.isInf then .unreadable else .real (if negative then -x else x)

/-- The exponent after an `e`, and the rest. -/
def power? (cs : Text) : Option (Int × Text) :=
  let (sign, r) := match cs with
    | '+' :: r => (1, r)
    | '-' :: r => (-1, r)
    | r => ((1 : Int), r)
  let ds := r.takeWhile Char.isDigit
  if ds.isEmpty then none else some (sign * decimalValue ds, r.drop ds.length)

/-- Integers that fit 64 bits stay integers, except negative zero. -/
def wholeNumber (negative : Bool) (n : Nat) : Json Float :=
  if negative then (if n = 0 ∨ pow2 63 < n then nearestReal true n 0 else .int (-n))
  else if n < pow2 64 then .int n
  else nearestReal false n 0

def number? (cs : Text) : Option (Json Float × Text) := do
  let (negative, cs) := match cs with
    | '-' :: r => (true, r)
    | r => (false, r)
  let whole := cs.takeWhile Char.isDigit
  let (fraction?, rest) := match cs.drop whole.length with
    | '.' :: r => (some (r.takeWhile Char.isDigit), r.dropWhile Char.isDigit)
    | r => (none, r)
  let (exponent?, rest) ← match rest with
    | 'e' :: r | 'E' :: r => (power? r).map fun (e, r) => (some e, r)
    | r => some (none, r)
  if whole.isEmpty ∨ (whole.head? = some '0' ∧ whole ≠ ['0']) ∨ fraction? = some [] then none
  else
    let places := fraction?.getD []
    let digits := decimalValue (whole ++ places)
    let value := match fraction?, exponent? with
      | none, none => wholeNumber negative digits
      | _, _ => nearestReal negative digits (exponent?.getD 0 - places.length)
    return (value, rest)

def hex4? : Text → Option (Nat × Text)
  | a :: b :: c :: d :: r => (naturalIn? 16 [a, b, c, d]).map fun n => (n, r)
  | _ => none

def isHighSurrogate (n : Nat) : Bool := 0xD800 ≤ n && n < 0xDC00

def isLowSurrogate (n : Nat) : Bool := 0xDC00 ≤ n && n < 0xE000

/-- The characters up to the closing quote, in reverse; none in place of them if an escape names half
of a surrogate pair. -/
def stringBody : Nat → Option Text → Text → Option (Option Text × Text)
  | 0, _, _ => none
  | fuel + 1, acc, cs =>
    let push (c : Char) (r : Text) := stringBody fuel (acc.map (c :: ·)) r
    match cs with
    | '"' :: r => some (acc, r)
    | '\\' :: '"' :: r => push '"' r
    | '\\' :: '\\' :: r => push '\\' r
    | '\\' :: '/' :: r => push '/' r
    | '\\' :: 'b' :: r => push '\x08' r
    | '\\' :: 'f' :: r => push '\x0c' r
    | '\\' :: 'n' :: r => push '\n' r
    | '\\' :: 'r' :: r => push '\r' r
    | '\\' :: 't' :: r => push '\t' r
    | '\\' :: 'u' :: r =>
      match hex4? r with
      | none => none
      | some (n, r) =>
        if isHighSurrogate n then
          match r with
          | '\\' :: 'u' :: r' =>
            match hex4? r' with
            | some (m, r'') =>
              if isLowSurrogate m then
                push (Char.ofNat (0x10000 + (n - 0xD800) * 0x400 + (m - 0xDC00))) r''
              else stringBody fuel none r
            | none => none
          | _ => stringBody fuel none r
        else if isLowSurrogate n then stringBody fuel none r
        else push (Char.ofNat n) r
    | '\\' :: _ => none
    | c :: r => if c.toNat < 0x20 then none else push c r
    | [] => none

/-- Text after the opening quote. -/
def string? (fuel : Nat) (cs : Text) : Option (Option String × Text) :=
  (stringBody fuel (some []) cs).map fun (acc, r) =>
    (acc.map (String.ofList ·.reverse), r)

/-- Containers nest at most this deep. -/
def depthLimit : Nat := 127

def literal? (word : String) (value : Json Float) (cs : Text) : Option (Json Float × Text) :=
  let w := word.toList
  if cs.take w.length = w then some (value, cs.drop w.length) else none

mutual

/-- A value whose containers are nested in `depth` others. -/
def value? : Nat → Nat → Text → Option (Json Float × Text)
  | 0, _, _ => none
  | fuel + 1, depth, cs =>
    match skipBlank cs with
    | '"' :: r => (string? (fuel + 1) r).map fun (s, r) => ((s.map Json.text).getD .unreadable, r)
    | '[' :: r => do
      let (xs, r) ← match skipBlank r with
        | ']' :: r => some ([], r)
        | r => items? fuel (depth + 1) r
      return (if depthLimit ≤ depth then .unreadable else .list xs, r)
    | '{' :: r => do
      let (fields, r) ← match skipBlank r with
        | '}' :: r => some (some [], r)
        | r => fields? fuel (depth + 1) r
      return (if depthLimit ≤ depth then .unreadable else (fields.map .object).getD .unreadable, r)
    | 'n' :: r => literal? "null" .null ('n' :: r)
    | 't' :: r => literal? "true" (.bool true) ('t' :: r)
    | 'f' :: r => literal? "false" (.bool false) ('f' :: r)
    | r => number? r

def items? : Nat → Nat → Text → Option (List (Json Float) × Text)
  | 0, _, _ => none
  | fuel + 1, depth, cs => do
    let (j, r) ← value? fuel depth cs
    match skipBlank r with
    | ',' :: r => do
      let (js, r) ← items? fuel depth r
      return (j :: js, r)
    | ']' :: r => return ([j], r)
    | _ => none

/-- Fields up to the closing brace; none in place of them if some name is unreadable. -/
def fields? : Nat → Nat → Text → Option (Option (List (String × Json Float)) × Text)
  | 0, _, _ => none
  | fuel + 1, depth, cs =>
    match skipBlank cs with
    | '"' :: r => do
      let (key, r) ← string? (fuel + 1) r
      match skipBlank r with
      | ':' :: r => do
        let (j, r) ← value? fuel depth r
        match skipBlank r with
        | ',' :: r => do
          let (rest, r) ← fields? fuel depth r
          return (do return (← key, j) :: (← rest), r)
        | '}' :: r => return (do return [(← key, j)], r)
        | _ => none
      | _ => none
    | _ => none

end

/-- A whole document: one value between blanks. -/
def read? (s : String) : Option (Json Float) :=
  let cs := s.toList
  match value? (2 * cs.length + 2) 0 cs with
  | some (j, r) => if (skipBlank r).isEmpty then some j else none
  | none => none

end FleetSizing.Json
