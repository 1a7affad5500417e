import FleetSizing.Group
import FleetSizing.Proofs.Scalar.Order
import FleetSizing.Proofs.Scalar.Rational
import FleetSizing.Proofs.Scalar.WholeNumbers

/-! Shares of whole numbers. Rounding moves a product by less than one unit of its last place, so that 95
hundredths of a whole number are not more than the number, however large it is. -/
namespace FleetSizing

namespace Rounding

open Float.Model Float.Model.UnpackedFloat

variable {m p k : Nat} {e q : Int}

theorem mantissa_shift (x : ExtendedMantissa) (k : Nat) : (x >>> k).mantissa = x.mantissa / 2 ^ k := by
  induction k with
  | zero => simp [HShiftRight.hShiftRight, Nat.repeat]
  | succ k ih =>
    change (ExtendedMantissa.shiftRightOne (x >>> k)).mantissa = _
    rw [ExtendedMantissa.shiftRightOne, ih, Nat.div_div_eq_div_mul, Nat.pow_succ]

theorem roundToNearestEven_mem (m : Nat) (a : Accuracy) :
    m ≤ a.roundToNearestEven m ∧ a.roundToNearestEven m ≤ m + 1 := by
  cases a with
  | exact => simp [Accuracy.roundToNearestEven]
  | inexact o => cases o <;> simp only [Accuracy.roundToNearestEven] <;> omega

theorem shiftToTargetExponent_eq (hle : 2 ^ (52 + k) ≤ p) (hlt : p < 2 ^ (53 + k)) (hq : -1074 ≤ q + k) :
    shiftToTargetExponent .binary64 p q .exact = ((⟨p, false, false⟩ : ExtendedMantissa) >>> k, q + k) := by
  have htarget : Format.binary64.targetExponent (totalExponent p q) = q + k := by
    simp only [totalExponent, WholeNumbers.log2_eq hle hlt, Format.targetExponent, Format.minExponent,
      WholeNumbers.mantissaBits_binary64]
    omega
  have hamount : (q + k - q).toNat = k := by omega
  rw [shiftToTargetExponent, htarget, shiftToExponent]
  simp only [hamount, ExtendedMantissa.ofMantissaAndAccuracy]

/-- Rounding takes the mantissa up by one at most; if it overflows, the exponent goes up instead. -/
theorem roundWithAccuracy_normal (hle : 2 ^ (52 + k) ≤ p) (hlt : p < 2 ^ (53 + k)) (hq : -1074 ≤ q + k) :
    ∃ m e h, roundWithAccuracy .binary64 .positive p q .exact = .finite .positive m e h ∧
      2 ^ 52 ≤ m ∧ m < 2 ^ 53 ∧
      (e = q + k ∧ m ≤ p / 2 ^ k + 1 ∨ e = q + k + 1 ∧ m = 2 ^ 52 ∧ 2 ^ 53 ≤ p / 2 ^ k + 1) := by
  obtain ⟨x, hx⟩ : ∃ x : ExtendedMantissa, (⟨p, false, false⟩ : ExtendedMantissa) >>> k = x := ⟨_, rfl⟩
  have hmantissa : x.mantissa = p / 2 ^ k := by rw [← hx, mantissa_shift]
  have hlow : 2 ^ 52 ≤ p / 2 ^ k := by
    rw [Nat.le_div_iff_mul_le (Nat.two_pow_pos k), ← Nat.pow_add]
    exact hle
  have hhigh : p / 2 ^ k < 2 ^ 53 := by
    rw [Nat.div_lt_iff_lt_mul (Nat.two_pow_pos k), ← Nat.pow_add]
    exact hlt
  obtain ⟨hup, hdown⟩ : p / 2 ^ k ≤ x.roundedMantissa ∧ x.roundedMantissa ≤ p / 2 ^ k + 1 := by
    rw [← hmantissa]
    exact roundToNearestEven_mem x.mantissa x.accuracy
  have hcut : shiftToTargetExponent .binary64 p q .exact = (x, q + k) := by
    rw [shiftToTargetExponent_eq hle hlt hq, hx]
  rcases Nat.lt_or_ge x.roundedMantissa (2 ^ 53) with hsmall | hlarge
  · have hagain : shiftToTargetExponent .binary64 x.roundedMantissa (q + k) .exact =
        (⟨x.roundedMantissa, false, false⟩, q + k) := by
      rw [shiftToTargetExponent_eq (k := 0) (hlow.trans hup) hsmall (by omega)]
      exact Prod.ext rfl (Int.add_zero _)
    have hpos : 0 < x.roundedMantissa := by omega
    exact ⟨_, _, hpos, WholeNumbers.roundWithAccuracy_of_shift hcut hagain hpos, by omega, hsmall,
      Or.inl ⟨rfl, hdown⟩⟩
  · have hfull : x.roundedMantissa = 2 ^ 53 := by omega
    have hagain : shiftToTargetExponent .binary64 x.roundedMantissa (q + k) .exact =
        (⟨2 ^ 52, false, false⟩, q + k + 1) := by
      rw [hfull, shiftToTargetExponent_eq (k := 1) (by norm_num) (by norm_num) (by omega)]
      rfl
    exact ⟨_, _, by decide, WholeNumbers.roundWithAccuracy_of_shift hcut hagain (by decide), by decide,
      by decide, Or.inr ⟨rfl, rfl, hfull ▸ hdown⟩⟩

/-- What a whole number is turned into: nothing below zero, and no number so small that it has few
digits. -/
def IsRegular (u : UnpackedFloat) : Prop :=
  u = .zero .positive ∨ u = .infinity .positive ∨
    ∃ m e h, u = .finite .positive m e h ∧ 2 ^ 52 ≤ m ∧ m < 2 ^ 53 ∧ -1000 ≤ e ∧ e ≤ 971

theorem isRegular_pack (hle : 2 ^ 52 ≤ m) (hlt : m < 2 ^ 53) (h : 0 < m) (he : -1000 ≤ e) :
    IsRegular (Float.Model.pack (.finite .positive m e h)).unpack := by
  by_cases hsmall : e ≤ 971
  · rw [WholeNumbers.unpack_pack_normal h hle hlt (by omega) hsmall]
    exact Or.inr (Or.inr ⟨m, e, h, rfl, hle, hlt, he, hsmall⟩)
  · have hpacked : UnpackedFloat.pack .binary64 (.finite .positive m e h) =
        packedInfinity .binary64 .positive := by
      rw [WholeNumbers.pack_finite, if_pos (by omega)]
    change IsRegular (UnpackedFloat.unpack .binary64 (UnpackedFloat.pack .binary64 _))
    rw [hpacked]
    exact Or.inr (Or.inl rfl)

theorem ofScientific_whole {n : Nat} (h : 0 < n) : Float.Model.ofScientific n 0 =
    .pack (roundWithAccuracy .binary64 .positive (n * 2 ^ 53) (-53) .exact) := by
  rw [Float.Model.ofScientific, UnpackedFloat.ofScientific, dif_neg (by omega), if_neg (by decide),
    if_neg (by simp only; omega), if_pos (Int.le_refl 0)]
  rw [WholeNumbers.mul_positive, WholeNumbers.mantissaBits_binary64, Nat.shiftLeft_eq, Int.toNat_zero,
    Nat.pow_zero, Nat.mul_one]
  rfl

theorem isRegular_ofNat (n : Nat) : IsRegular (Float.ofNat n).toModel.unpack := by
  rcases Nat.eq_zero_or_pos n with rfl | hpos
  · exact Or.inl rfl
  rcases Nat.lt_or_ge n (2 ^ 53) with hsmall | hlarge
  · have hlog := WholeNumbers.log2_le hpos hsmall
    obtain ⟨hle, hlt⟩ := WholeNumbers.mantissa_whole hpos hlog
    rw [WholeNumbers.ofNat_eq_whole hpos hlog]
    exact isRegular_pack hle hlt _ (by omega)
  · obtain ⟨m, e, h, hround, hle, hlt, he⟩ := roundWithAccuracy_normal (p := n * 2 ^ 53)
      (k := n.log2 + 1) (q := -53)
      (by rw [show 52 + (n.log2 + 1) = n.log2 + 53 by omega, Nat.pow_add]
          exact Nat.mul_le_mul_right _ (Nat.log2_self_le (by omega)))
      (by rw [show 53 + (n.log2 + 1) = n.log2 + 1 + 53 by omega, Nat.pow_add]
          exact Nat.mul_lt_mul_of_pos_right Nat.lt_log2_self (Nat.two_pow_pos 53))
      (by omega)
    have hscaled : Float.ofNat n = .ofModel (.pack (.finite .positive m e h)) := by
      rw [Float.ofNat]
      dsimp only [OfScientific.ofScientific, Float.ofScientific]
      rw [dif_neg (by omega)]
      change Float.ofModel (Float.Model.ofScientific n 0) = _
      rw [ofScientific_whole hpos, hround]
    rw [hscaled]
    exact isRegular_pack hle hlt h (by omega)

/-- The double nearest to 95 hundredths. -/
def share : UnpackedFloat := .finite .positive 8556839292003942 (-53) (by decide)

theorem unpack_share : (Group.runtimeShare : Float).toModel.unpack = share := rfl

theorem mul_share (hle : 2 ^ 52 ≤ m) (hlt : m < 2 ^ 53) (h : 0 < m) (he : -1000 ≤ e) : ∃ n f hn,
    UnpackedFloat.mul .binary64 (.finite .positive m e h) share = .finite .positive n f hn ∧
      2 ^ 52 ≤ n ∧ n < 2 ^ 53 ∧ (f = e - 1 ∨ f = e ∧ n ≤ m) := by
  have hmul : UnpackedFloat.mul .binary64 (.finite .positive m e h) share =
      roundWithAccuracy .binary64 .positive (m * 8556839292003942) (e - 53) .exact := rfl
  rw [hmul]
  -- The product has as many digits as the two mantissas together, or one fewer.
  rcases Nat.lt_or_ge (m * 8556839292003942) (2 ^ 105) with hshort | hlong
  · obtain ⟨n, f, hn, hround, hle', hlt', hf⟩ := roundWithAccuracy_normal (k := 52) (q := e - 53)
      (by omega) hshort (by omega)
    exact ⟨n, f, hn, hround, hle', hlt', by omega⟩
  · obtain ⟨n, f, hn, hround, hle', hlt', hf⟩ := roundWithAccuracy_normal (k := 53) (q := e - 53)
      hlong (by omega) (by omega)
    exact ⟨n, f, hn, hround, hle', hlt', by omega⟩

theorem not_lt_mul_share {u : UnpackedFloat} (hu : IsRegular u) :
    ¬ u.lt (Float.Model.pack (u.mul .binary64 share)).unpack := by
  rcases hu with rfl | rfl | ⟨m, e, h, rfl, hle, hlt, he, hmax⟩
  · decide
  · decide
  · obtain ⟨n, f, hn, hmul, hle', hlt', hbound⟩ := mul_share hle hlt h he
    rw [hmul, WholeNumbers.unpack_pack_normal hn hle' hlt' (by omega) (by omega),
      DoubleOrder.lt_iff rfl rfl]
    dsimp only [DoubleOrder.key]
    rw [DoubleOrder.key_lt_key_iff]
    omega

end Rounding

/-- No whole number of minutes is below its own share. -/
class Scalar.BoundsShare (α : Type) [Scalar α] : Prop where
  not_lt_share : ∀ n : Nat, ¬ (n : α) < (n : α) * Group.runtimeShare

instance : Scalar.BoundsShare Rat where
  not_lt_share n := by
    have hshare : (Group.runtimeShare : Rat) ≤ 1 := by norm_num [Group.runtimeShare, Scalar.ratio_rat]
    exact not_lt.mpr (mul_le_of_le_one_right n.cast_nonneg hshare)

instance : Scalar.BoundsShare Float where
  not_lt_share n hlt := by
    refine Rounding.not_lt_mul_share (Rounding.isRegular_ofNat n) ?_
    rw [← Rounding.unpack_share]
    exact of_decide_eq_true hlt

end FleetSizing
