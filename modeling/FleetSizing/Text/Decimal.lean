import FleetSizing.Text.Nearest

/-! Decimal text of binary fractions: the fewest digits that read back, and a fixed number of places. -/
namespace FleetSizing

/-- A double as a signed multiple of a power of two. -/
structure Binary where
  negative : Bool
  significand : Nat
  exponent : Int
  /-- The gap to the next smaller double is half the gap above. -/
  gapHalvesBelow : Bool

namespace Binary

/-- Reads sign, exponent and fraction fields; only meaningful for finite doubles. -/
def ofFloat (x : Float) : Binary :=
  let bits := x.toBits.toNat
  let field : Nat := bits / pow2 52 % pow2 11
  let fraction := bits % pow2 52
  { negative := bits / pow2 63 == 1
    significand := if field == 0 then fraction else fraction + pow2 52
    exponent := (if field == 0 then 1 else (field : Int)) - 1075
    gapHalvesBelow := fraction == 0 && field > 1 }

/-- Numerator and denominator of the magnitude. -/
def fraction (b : Binary) : Nat × Nat :=
  (b.significand * pow2 b.exponent.toNat, pow2 (-b.exponent).toNat)

end Binary

/-- A decimal magnitude `coefficient * 10 ^ exponent`. -/
structure Decimal where
  coefficient : Nat
  exponent : Int
  deriving DecidableEq, Repr

namespace Decimal

/-- The point of the grid of multiples of `10 ^ k` that lies nearest to the number and still rounds
to it, if there is one; of two equally near points the even one. -/
def onGrid (b : Binary) (k : Int) : Option Nat :=
  let one := pow2 b.exponent.toNat * pow10 (-k).toNat
  let unit := 4 * pow2 (-b.exponent).toNat * pow10 k.toNat
  let value := 4 * b.significand * one
  let low := value - (if b.gapHalvesBelow then 1 else 2) * one
  let high := value + 2 * one
  let closed := b.significand % 2 == 0
  let below := value / unit
  let belowFits := if closed then decide (low ≤ below * unit) else decide (low < below * unit)
  let above := below + 1
  let aboveFits := if closed then decide (above * unit ≤ high) else decide (above * unit < high)
  let toBelow := value - below * unit
  let toAbove := above * unit - value
  match belowFits, aboveFits with
  | false, false => none
  | true, false => some below
  | false, true => some above
  | true, true =>
    if toBelow < toAbove ∨ (toBelow = toAbove ∧ below % 2 = 0) then some below else some above

/-- Grids are tried from coarse to fine; seventeen digits always suffice. -/
def firstHit (b : Binary) : Nat → Int → Decimal
  | 0, k => ⟨0, k⟩
  | n + 1, k =>
    match onGrid b k with
    | some c => ⟨c, k⟩
    | none => firstHit b n (k - 1)

/-- Drops trailing zeros of the coefficient. -/
def trim : Nat → Decimal → Decimal
  | 0, d => d
  | n + 1, d => if d.coefficient ≠ 0 ∧ d.coefficient % 10 = 0 then
      trim n ⟨d.coefficient / 10, d.exponent + 1⟩ else d

/-- The fewest digits that read back, and of those the nearest to the number. -/
def shortest (b : Binary) : Decimal :=
  if b.significand = 0 then ⟨0, 0⟩ else
    let magnitude := ((b.significand.log2 : Int) + b.exponent) * 30103 / 100000
    trim 4 (firstHit b 24 (magnitude + 2))

/-- Which numbers are written without an exponent, and how the rest is marked. -/
structure Layout where
  /-- Powers of ten of the leading digit between which the point is placed among the digits. -/
  plain : Option (Int × Int)
  /-- Whole numbers end in `.0`. -/
  keepsPoint : Bool
  /-- A positive exponent carries a sign. -/
  signsExponent : Bool

def digitText (n : Nat) : String := String.ofList (Nat.toDigits 10 n)

def zeros (n : Nat) : String := String.ofList (List.replicate n '0')

/-- Places the point; a whole number ends as `keepsPoint` asks. -/
def positional (keepsPoint : Bool) (d : Decimal) : String :=
  let digits := Nat.toDigits 10 d.coefficient
  let whole := digits.length + d.exponent
  if 0 ≤ d.exponent then
    String.ofList digits ++ zeros d.exponent.toNat ++ (if keepsPoint then ".0" else "")
  else if 0 < whole then
    String.ofList (digits.take whole.toNat) ++ "." ++ String.ofList (digits.drop whole.toNat)
  else
    "0." ++ zeros (-whole).toNat ++ String.ofList digits

/-- One digit before the point and a power of ten. -/
def scientific (signsExponent : Bool) (d : Decimal) : String :=
  let digits := Nat.toDigits 10 d.coefficient
  let power := (digits.length : Int) - 1 + d.exponent
  let tail := digits.drop 1
  let mark := if power < 0 then "-" else if signsExponent then "+" else ""
  String.ofList (digits.take 1) ++ (if tail.isEmpty then "" else "." ++ String.ofList tail)
    ++ "e" ++ mark ++ digitText power.natAbs

def Layout.render (l : Layout) (d : Decimal) : String :=
  let lead := (Nat.toDigits 10 d.coefficient).length - 1 + d.exponent
  match l.plain with
  | none => positional l.keepsPoint d
  | some (lo, hi) =>
    if d.coefficient = 0 ∨ (lo ≤ lead ∧ lead ≤ hi) then positional l.keepsPoint d
    else scientific l.signsExponent d

end Decimal

/-- Text of a double under a layout; what is not a number is spelled out. -/
def Decimal.Layout.text (l : Decimal.Layout) (x : Float) : String :=
  if x.isNaN then "NaN"
  else if x.isInf then (if x < 0 then "-inf" else "inf")
  else
    let b := Binary.ofFloat x
    (if b.negative then "-" else "") ++ l.render (Decimal.shortest b)

/-- Messages never use an exponent and write whole numbers without a point. -/
def Decimal.message : Decimal.Layout := ⟨none, false, false⟩

/-- Structured events write every number with a point or an exponent. -/
def Decimal.event : Decimal.Layout := ⟨some (-4, 15), true, false⟩

/-- Documents write every number with a point or an exponent, whose sign is always given. -/
def Decimal.document : Decimal.Layout := ⟨some (-5, 15), true, true⟩

/-- A fixed number of decimal places, the exact value rounded, a half going to the even neighbour. -/
def fixedPlaces (places : Nat) (x : Float) : String :=
  if x.isNaN then "NaN"
  else if x.isInf then (if x < 0 then "-inf" else "inf")
  else
    let b := Binary.ofFloat x
    let (num, den) := b.fraction
    let scaled := roundDivEven (num * pow10 places) den
    let frac := Nat.toDigits 10 (scaled % pow10 places)
    (if b.negative then "-" else "") ++ Decimal.digitText (scaled / pow10 places) ++ "."
      ++ Decimal.zeros (places - frac.length) ++ String.ofList frac

end FleetSizing
