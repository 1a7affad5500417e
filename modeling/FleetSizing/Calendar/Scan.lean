import FleetSizing.Text.Blank
import FleetSizing.Text.Integer

/-! Pieces of calendar text: unsigned numbers and separators, each after optional blanks. -/
namespace FleetSizing.Scan

/-- One to `width` digits. -/
def digits? (width : Nat) (cs : List Char) : Option (Nat × List Char) :=
  let ds := (cs.take width).takeWhile Char.isDigit
  if ds.isEmpty then none else some (decimalValue ds, cs.drop ds.length)

/-- Blanks, then one to `width` digits. -/
def number? (width : Nat) (cs : List Char) : Option (Nat × List Char) := digits? width (Blank.skip cs)

/-- A number within bounds. -/
def bounded? (width lo hi : Nat) (cs : List Char) : Option (Nat × List Char) := do
  let (n, r) ← number? width cs
  if lo ≤ n ∧ n ≤ hi then some (n, r) else none

/-- Blanks, then the given character. -/
def mark? (c : Char) (cs : List Char) : Option (List Char) :=
  match Blank.skip cs with
  | d :: r => if c = d then some r else none
  | [] => none

/-- A fraction of a second in nanoseconds, if one follows; digits past the ninth are dropped. -/
def fraction? : List Char → Option (Nat × List Char)
  | '.' :: r => do
    let ds := (r.take 9).takeWhile Char.isDigit
    if ds.isEmpty then none
    else some (decimalValue ds * pow10 (9 - ds.length), (r.drop ds.length).dropWhile Char.isDigit)
  | cs => some (0, cs)

/-- Decimal digits, zeros in front up to the width. -/
def padded (width n : Nat) : String :=
  let ds := Nat.toDigits 10 n
  String.ofList (List.replicate (width - ds.length) '0' ++ ds)

/-- A fraction of a second in three, six or nine digits; nothing for none. -/
def fractionText (nano : Nat) : String :=
  if nano = 0 then ""
  else if nano % 1000000 = 0 then "." ++ padded 3 (nano / 1000000)
  else if nano % 1000 = 0 then "." ++ padded 6 (nano / 1000)
  else "." ++ padded 9 nano

end FleetSizing.Scan
