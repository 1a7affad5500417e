import FleetSizing.Powers

/-! Integers in digits, with a sign or none. -/
namespace FleetSizing

def decimalValue (ds : List Char) : Nat := ds.foldl (fun n c => n * 10 + (c.toNat - 48)) 0

def hexDigit? (c : Char) : Option Nat :=
  if c.isDigit then some (c.toNat - 48)
  else if 'a' ≤ c ∧ c ≤ 'f' then some (c.toNat - 87)
  else if 'A' ≤ c ∧ c ≤ 'F' then some (c.toNat - 55)
  else none

/-- The value of a digit to a base of at most sixteen. -/
def digitIn? (base : Nat) (c : Char) : Option Nat := (hexDigit? c).filter (· < base)

/-- One digit or more to a base of at most sixteen. -/
def naturalIn? (base : Nat) (ds : List Char) : Option Nat :=
  if ds.isEmpty then none else ds.foldlM (fun n c => (digitIn? base c).map (n * base + ·)) 0

/-- Digits to a base after a sign or none. -/
def integerIn? (base : Nat) : List Char → Option Int
  | '-' :: r => (naturalIn? base r).map fun n => -(n : Int)
  | '+' :: r => (naturalIn? base r).map fun n => (n : Int)
  | r => (naturalIn? base r).map fun n => (n : Int)

/-- An integer within 64 bits, sign included. -/
def parseInt64? (s : String) : Option Int := (integerIn? 10 s.toList).filter (isSigned 64)

/-- Digits after a plus sign or none, below `pow2 64`. -/
def parseNat64? (s : String) : Option Nat :=
  let ds := match s.toList with
    | '+' :: r => r
    | r => r
  (naturalIn? 10 ds).filter (· < pow2 64)

def intText (n : Int) : String :=
  (if n < 0 then "-" else "") ++ String.ofList (Nat.toDigits 10 n.natAbs)

end FleetSizing
