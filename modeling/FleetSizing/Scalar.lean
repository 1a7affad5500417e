import FleetSizing.Text.Decimal

/-! Numbers the engine computes with: binary floating point when it runs, rationals when reasoned about. -/
namespace FleetSizing

/-- One operation order serves both readings: every formula below is written once over a scalar. -/
class Scalar (α : Type) extends Add α, Sub α, Mul α, Div α, Neg α, LT α, LE α, BEq α,
    NatCast α, IntCast α, Inhabited α where
  decLt : DecidableLT α
  decLe : DecidableLE α
  /-- Neutral element of addition, which a sum of no terms yields; for binary floating point `-0`. -/
  emptySum : α
  /-- Integer part of a non-negative number; zero below. -/
  natPart : α → Nat
  /-- Nearest integer, a half going away from zero. -/
  nearest : α → α
  /-- Neither infinite nor undefined. -/
  isFinite : α → Bool
  /-- Below positive infinity. -/
  isBounded : α → Bool
  /-- Text in messages. -/
  text : α → String
  /-- Text in messages, to one decimal place. -/
  tenths : α → String

attribute [reducible, instance] Scalar.decLt Scalar.decLe

namespace Scalar

/-- Nearest integer to a positive double, a half going up. From 2⁵² on doubles have no fraction. -/
def nearestPositive (x : Float) : Float :=
  if x < 4503599627370496 then
    let whole := Float.ofNat x.toUInt64.toNat
    if x - whole < 0.5 then whole else whole + 1
  else x

/-- Nearest integer to a double, of its sign. -/
def nearestDouble (x : Float) : Float :=
  if x < 0 then -nearestPositive (-x) else if 0 < x then nearestPositive x else x

instance : Scalar Float where
  natCast := Float.ofNat
  intCast := Float.ofInt
  decLt := inferInstance
  decLe := inferInstance
  emptySum := -Float.ofNat 0
  natPart x := x.toUInt64.toNat
  nearest := nearestDouble
  isFinite := Float.isFinite
  isBounded x := x < 1.0 / 0.0
  text := Decimal.message.text
  tenths := fixedPlaces 1

instance : Scalar Rat where
  decLt := inferInstance
  decLe := inferInstance
  emptySum := 0
  natPart x := x.floor.toNat
  nearest x := if x < 0 then -((-x + 1 / 2).floor : Rat) else ((x + 1 / 2).floor : Rat)
  isFinite _ := true
  isBounded _ := true
  text x := s!"{x.num}/{x.den}"
  tenths x := let t := x * 10 + 1 / 2; s!"{t.floor}/10"

variable {α : Type} [Scalar α]

/-- The quotient of two small integers, exact wherever the scalar can hold it. -/
def ratio (p q : Nat) : α := (p : α) / (q : α)

/-- Distance between one and the next larger double. -/
def epsilon : α := ratio 1 4503599627370496

/-- Left to right. -/
def sum (xs : List α) : α := xs.foldl (· + ·) emptySum

theorem sum_append_singleton (xs : List α) (x : α) : sum (xs ++ [x]) = sum xs + x := by
  rw [sum, List.foldl_append, ← sum]
  rfl

def abs (x : α) : α := if x < (0 : Nat) then -x else x

/-- The larger of two; an undefined operand gives way to the other. -/
def larger (x y : α) : α := if x < y then y else if x == x then x else y

/-- The smaller of two; an undefined operand gives way to the other. -/
def smaller (x y : α) : α := if y < x then y else if x == x then x else y

def clamp (lo hi x : α) : α := if x < lo then lo else if hi < x then hi else x

/-- Two decimal places. -/
def round2 (x : α) : α := nearest (x * (100 : Nat)) / (100 : Nat)

end Scalar

end FleetSizing
