import FleetSizing.Scalar
import Mathlib.Algebra.Order.Ring.Int
import Mathlib.Algebra.Order.Ring.Unbundled.Rat
import Mathlib.Data.Int.ConditionallyCompleteOrder
import Mathlib.Data.Nat.Cast.Order.Ring
import Mathlib.Data.Prod.Lex
import Mathlib.Order.ConditionallyCompleteLattice.Basic

/-! How finite scalars compare. Doubles compare by sign, exponent and mantissa, in that order. -/
namespace FleetSizing

/-- Finite scalars compare as their images in some linear order, and lie below infinity. -/
class Scalar.IsOrdered (α : Type) [Scalar α] : Prop where
  exists_key : ∃ (κ : Type) (_ : LinearOrder κ) (key : α → κ), ∀ x y : α,
    Scalar.isFinite x → Scalar.isFinite y → (x < y ↔ key x < key y)
  isBounded : ∀ x : α, Scalar.isFinite x → Scalar.isBounded x

instance : Scalar.IsOrdered Rat where
  exists_key := ⟨ℚ, inferInstance, id, fun _ _ _ _ => Iff.rfl⟩
  isBounded _ _ := rfl

namespace DoubleOrder

open Float.Model Float.Model.UnpackedFloat

variable {a b : UnpackedFloat}

/-- What a finite double compares by. -/
def key : UnpackedFloat → ℤ ×ₗ ℤ ×ₗ ℤ
  | .finite .positive mantissa exponent _ => toLex (1, toLex (exponent, (mantissa : ℤ)))
  | .finite .negative mantissa exponent _ => toLex (-1, toLex (-exponent, -(mantissa : ℤ)))
  | _ => toLex (0, toLex (0, 0))

theorem key_lt_key_iff {c e m d f n : ℤ} :
    toLex (c, toLex (e, m)) < toLex (d, toLex (f, n)) ↔
      c < d ∨ c = d ∧ (e < f ∨ e = f ∧ m < n) := by
  rw [Prod.Lex.toLex_lt_toLex, Prod.Lex.toLex_lt_toLex]

theorem lt_iff (ha : a.isFinite) (hb : b.isFinite) : a.lt b ↔ key a < key b := by
  cases a with
  | infinity _ => cases ha
  | notANumber => cases ha
  | zero _ =>
    cases b with
    | infinity _ => cases hb
    | notANumber => cases hb
    | zero _ =>
      dsimp only [UnpackedFloat.lt, UnpackedFloat.compare, key]
      simp
    | finite sign _ _ _ =>
      cases sign <;> dsimp only [UnpackedFloat.lt, UnpackedFloat.compare, key] <;> simp [key_lt_key_iff]
  | finite sign m e _ =>
    cases b with
    | infinity _ => cases hb
    | notANumber => cases hb
    | zero _ =>
      cases sign <;> dsimp only [UnpackedFloat.lt, UnpackedFloat.compare, key] <;> simp [key_lt_key_iff]
    | finite sign' n f _ =>
      cases sign <;> cases sign' <;> dsimp only [UnpackedFloat.lt, UnpackedFloat.compare, key] <;>
        simp [key_lt_key_iff, Ordering.then_eq_lt, Ordering.then_eq_gt, compare_lt_iff_lt, compare_gt_iff_gt]

/-- What a double is equal by. What is not a number has none, and is not even equal to itself. -/
def rank? : UnpackedFloat → Option (Sign ⊕ ℤ ×ₗ ℤ ×ₗ ℤ)
  | .notANumber => none
  | .infinity sign => some (.inl sign)
  | a => some (.inr (key a))

theorem compare_sign_self (s : Sign) : compare s s = .eq := by
  cases s <;> rfl

theorem beq_eq (a b : UnpackedFloat) : a.beq b = (a.compare b == some .eq) := rfl

theorem beq_iff : a.beq b ↔ (rank? a).isSome ∧ rank? a = rank? b := by
  rw [beq_eq]
  cases a with
  | notANumber => exact iff_of_false nofun fun h => nomatch h.1
  | infinity s =>
    cases b with
    | infinity t =>
      cases s <;> cases t <;> dsimp only [UnpackedFloat.compare, rank?] <;> simp [compare_sign_self]
    | _ => cases s <;> exact iff_of_false nofun fun h => nomatch h.2
  | zero s =>
    cases b with
    | finite t _ _ _ => cases t <;> dsimp only [UnpackedFloat.compare, rank?, key] <;> simp
    | infinity t => cases t <;> exact iff_of_false nofun fun h => nomatch h.2
    | _ =>
      dsimp only [UnpackedFloat.compare, rank?, key]
      simp
  | finite s m e _ =>
    cases b with
    | finite t n f _ =>
      cases s <;> cases t <;> dsimp only [UnpackedFloat.compare, rank?, key] <;> simp
    | infinity t => cases s <;> cases t <;> exact iff_of_false nofun fun h => nomatch h.2
    | _ => cases s <;> dsimp only [UnpackedFloat.compare, rank?, key] <;> simp

theorem lt_infinity (ha : a.isFinite) : a.lt (.infinity .positive) := by
  cases a with
  | infinity _ => cases ha
  | notANumber => cases ha
  | zero _ => rfl
  | finite sign _ _ _ => cases sign <;> rfl

theorem unpack_infinity : ((1.0 : Float) / 0.0).toModel.unpack = .infinity .positive := by
  have hbits : ((1.0 : Float) / 0.0).toModel.toBits = 0x7FF0000000000000 := by decide
  rw [Float.Model.unpack, hbits]
  rfl

end DoubleOrder

/-- Equality of doubles is not reflexive. -/
instance partialEquivBEqFloat : PartialEquivBEq Float where
  symm := by
    intro x y h
    obtain ⟨hx, hxy⟩ := DoubleOrder.beq_iff.mp h
    exact DoubleOrder.beq_iff.mpr ⟨hxy ▸ hx, hxy.symm⟩
  trans := by
    intro x y z h h'
    obtain ⟨hx, hxy⟩ := DoubleOrder.beq_iff.mp h
    exact DoubleOrder.beq_iff.mpr ⟨hx, hxy.trans (DoubleOrder.beq_iff.mp h').2⟩

instance : Scalar.IsOrdered Float where
  exists_key := by
    refine ⟨_, inferInstance, fun x => DoubleOrder.key x.toModel.unpack, fun x y hx hy => ?_⟩
    rw [← DoubleOrder.lt_iff hx hy]
    exact decide_eq_true_iff
  isBounded := by
    intro x hx
    have hlt := DoubleOrder.lt_infinity hx
    rw [← DoubleOrder.unpack_infinity] at hlt
    exact decide_eq_true (decide_eq_true hlt)

end FleetSizing
