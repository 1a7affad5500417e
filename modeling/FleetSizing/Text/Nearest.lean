import FleetSizing.Text.Integer

/-! The double nearest to a decimal number, and the texts that name one. -/
namespace FleetSizing

/-- The nearest integer to a quotient, a half going to the even neighbour. -/
def roundDivEven (num den : Nat) : Nat :=
  let q := num / den
  let r := num % den
  if 2 * r < den then q else if den < 2 * r then q + 1 else if q % 2 = 0 then q else q + 1

/-- The power of two at or below a quotient. -/
def quotientLog2 (num den : Nat) : Int :=
  let k : Int := (num.log2 : Int) - den.log2
  if den * pow2 k.toNat ≤ num * pow2 (-k).toNat then k else k - 1

/-- The double nearest to a quotient, a half going to the even neighbour; infinite where the largest
double is passed by half a gap. Successive bit patterns are successive doubles, so a significand that
rounding carries past its width is still in place. -/
def nearestDouble (num den : Nat) : Float :=
  if num = 0 then 0.0
  else
    let e := max (-1074) (quotientLog2 num den - 52)
    let significand := roundDivEven (num * pow2 (-e).toNat) (den * pow2 e.toNat)
    let bits := (e + 1074).toNat * pow2 52 + significand
    let infinity := 2047 * pow2 52
    Float.ofBits (min bits infinity).toUInt64

/-- The double nearest to `digits * 10 ^ e`. -/
def decimalDouble (digits : Nat) (e : Int) : Float :=
  let lead := (digits.log2 : Int) * 30103 / 100000 + e
  if digits = 0 ∨ lead < -330 then 0.0
  else if 310 < lead then 1.0 / 0.0
  else nearestDouble (digits * pow10 e.toNat) (pow10 (-e).toNat)

/-- A magnitude in digits, with a point among, before or after them, and an exponent or none. -/
def decimalText? (cs : List Char) : Option Float :=
  let whole := cs.takeWhile Char.isDigit
  let rest := cs.drop whole.length
  let (fraction, rest) := match rest with
    | '.' :: r => (r.takeWhile Char.isDigit, r.dropWhile Char.isDigit)
    | r => ([], r)
  if whole.isEmpty ∧ fraction.isEmpty then none
  else
    let value (e : Int) : Float := decimalDouble (decimalValue (whole ++ fraction)) (e - fraction.length)
    match rest with
    | [] => some (value 0)
    | c :: r => if c = 'e' ∨ c = 'E' then (integerIn? 10 r).map value else none

/-- A double out of its text: a sign or none, then a magnitude, an infinity, or what is no number. -/
def parseDouble? (cs : List Char) : Option Float :=
  let (negative, r) := match cs with
    | '-' :: r => (true, r)
    | '+' :: r => (false, r)
    | r => (false, r)
  let magnitude := match String.ofList (r.map Char.toLower) with
    | "inf" | "infinity" => some (1.0 / 0.0)
    | "nan" => some (0.0 / 0.0)
    | _ => decimalText? r
  magnitude.map fun x => if negative then -x else x

end FleetSizing
