import FleetSizing.Scalar
import Mathlib.Algebra.CharP.Defs
import Mathlib.Algebra.Order.Ring.Nat
import Mathlib.Algebra.Order.Sub.Basic
import Mathlib.Algebra.Ring.Int.Defs
import Mathlib.Data.Nat.SuccPred

/-! Whole numbers below 2⁵³ are exact in binary floating point: adding one to them, and dividing them
by themselves, does not round. -/
namespace FleetSizing.WholeNumbers

open Float.Model Float.Model.UnpackedFloat

variable {n j : Nat}

/-- A positive whole number, its leading bit in the highest place of the mantissa. -/
def whole (n : Nat) (h : 0 < n) : UnpackedFloat :=
  .finite .positive (n * 2 ^ (52 - n.log2)) ((n.log2 : Int) - 52) (Nat.mul_pos h (Nat.two_pow_pos _))

theorem log2_mul_two_pow (h : 0 < n) : (n * 2 ^ j).log2 = n.log2 + j := by
  have hne : n * 2 ^ j ≠ 0 := Nat.ne_of_gt (Nat.mul_pos h (Nat.two_pow_pos j))
  rw [Nat.log2_eq_iff hne, Nat.add_right_comm, Nat.pow_add, Nat.pow_add]
  exact ⟨Nat.mul_le_mul_right _ (Nat.log2_self_le (by omega)),
    Nat.mul_lt_mul_of_pos_right Nat.lt_log2_self (Nat.two_pow_pos j)⟩

/-- Zeros that are shifted out leave nothing to round. -/
theorem shift_zeros (m k : Nat) :
    (⟨m * 2 ^ k, false, false⟩ : ExtendedMantissa) >>> k = ⟨m, false, false⟩ := by
  induction k generalizing m with
  | zero => simp [HShiftRight.hShiftRight, Nat.repeat]
  | succ k ih =>
    have hone : (⟨m * 2 ^ (k + 1), false, false⟩ : ExtendedMantissa) >>> (k + 1) =
        ((⟨m * 2 * 2 ^ k, false, false⟩ : ExtendedMantissa) >>> k).shiftRightOne := by
      rw [Nat.mul_assoc, ← Nat.pow_succ']
      rfl
    rw [hone, ih]
    simp [ExtendedMantissa.shiftRightOne]

theorem mantissaBits_binary64 : Format.binary64.mantissaBits = 53 := rfl

theorem targetExponent_whole (h : 0 < n) :
    Format.binary64.targetExponent (totalExponent (n * 2 ^ j) (-j)) = (n.log2 : Int) - 52 := by
  simp only [totalExponent, log2_mul_two_pow h, Format.targetExponent, Format.minExponent,
    mantissaBits_binary64]
  omega

theorem shift_whole (h : 0 < n) (hj : 52 ≤ n.log2 + j) (hn : n.log2 ≤ 52) :
    shiftToTargetExponent .binary64 (n * 2 ^ j) (-j) .exact =
      (⟨n * 2 ^ (52 - n.log2), false, false⟩, (n.log2 : Int) - 52) := by
  obtain ⟨k, rfl⟩ : ∃ k, j = 52 - n.log2 + k := ⟨j - (52 - n.log2), by omega⟩
  have hk : ((n.log2 : Int) - 52 - -((52 - n.log2 + k : Nat) : Int)).toNat = k := by omega
  rw [shiftToTargetExponent, targetExponent_whole h, shiftToExponent]
  simp only [hk, ExtendedMantissa.ofMantissaAndAccuracy]
  rw [Nat.pow_add, ← Nat.mul_assoc, shift_zeros]
  congr 1
  omega

/-- A number is rounded once its mantissa is cut, and cut again if rounding made it too long. -/
theorem roundWithAccuracy_of_shift {s : Sign} {m : Nat} {e e' e'' : Int} {acc : Accuracy}
    {cut last : ExtendedMantissa} (hcut : shiftToTargetExponent .binary64 m e acc = (cut, e'))
    (hlast : shiftToTargetExponent .binary64 cut.roundedMantissa e' .exact = (last, e''))
    (hpos : 0 < last.mantissa) :
    roundWithAccuracy .binary64 s m e acc = .finite s last.mantissa e'' hpos := by
  rw [roundWithAccuracy, hcut]
  dsimp only
  rw [hlast]
  exact dif_neg (Nat.ne_of_gt hpos)

theorem roundWithAccuracy_whole (h : 0 < n) (hj : 52 ≤ n.log2 + j) (hn : n.log2 ≤ 52) :
    roundWithAccuracy .binary64 .positive (n * 2 ^ j) (-j) .exact = whole n h := by
  have hagain := shift_whole (j := 52 - n.log2) h (by omega) hn
  rw [show -((52 - n.log2 : Nat) : Int) = (n.log2 : Int) - 52 by omega] at hagain
  exact roundWithAccuracy_of_shift (shift_whole h hj hn) hagain (Nat.mul_pos h (Nat.two_pow_pos _))

theorem round_whole (h : 0 < n) (hn : n.log2 ≤ 52) :
    UnpackedFloat.round .binary64 .positive (n * 2 ^ j) (-j) = whole n h := by
  -- The exponent only ever has to fall as far as the mantissa asks for.
  obtain ⟨i, hi⟩ : ∃ i : Nat, decreaseExponent (n * 2 ^ j) (-j) ((n.log2 : Int) - 52) =
      (n * 2 ^ i, -(i : Int)) ∧ 52 ≤ n.log2 + i := by
    refine ⟨j + (52 - n.log2 - j), ?_, by omega⟩
    have hk : (-(j : Int) - ((n.log2 : Int) - 52)).toNat = 52 - n.log2 - j := by omega
    simp only [decreaseExponent, hk, Nat.shiftLeft_eq, Nat.mul_assoc, ← Nat.pow_add]
    congr 1
    omega
  rw [UnpackedFloat.round, targetExponent_whole h, hi.1]
  exact roundWithAccuracy_whole h hi.2 hn

theorem normalize_whole (h : 0 < n) (hn : n.log2 ≤ 52) :
    UnpackedFloat.normalize .binary64 ((n * 2 ^ j : Nat) : Int) (-j) .positive = whole n h := by
  have hpos : 0 < n * 2 ^ j := Nat.mul_pos h (Nat.two_pow_pos j)
  have hgt : compare ((n * 2 ^ j : Nat) : Int) 0 = .gt := by
    rw [Int.compare_eq_gt]
    omega
  rw [UnpackedFloat.normalize, hgt]
  exact round_whole h hn

theorem mantissa_whole (h : 0 < n) (hn : n.log2 ≤ 52) :
    2 ^ 52 ≤ n * 2 ^ (52 - n.log2) ∧ n * 2 ^ (52 - n.log2) < 2 ^ 53 := by
  have hlog : (n * 2 ^ (52 - n.log2)).log2 = 52 := by
    rw [log2_mul_two_pow h]
    omega
  have hpos : n * 2 ^ (52 - n.log2) ≠ 0 := Nat.ne_of_gt (Nat.mul_pos h (Nat.two_pow_pos _))
  exact (Nat.log2_eq_iff hpos).mp hlog

theorem unpackSign_packComponents {spec : Format} {sign : Sign} {exponent mantissa} :
    Sign.ofBitVec (unpackSign (packComponents spec sign exponent mantissa)) = sign := by
  have hbits : unpackSign (packComponents spec sign exponent mantissa) = sign.toBitVec := by
    ext i hi
    obtain rfl : i = 0 := by omega
    delta unpackSign
    simp [packComponents, BitVec.getLsbD_append, BitVec.getElem_append]
  rw [hbits]
  cases sign <;> rfl

/-- The leading bit is left out of the packed mantissa, and comes back when it is unpacked. -/
theorem toNat_append_mantissa {m : Nat} (hle : 2 ^ 52 ≤ m) (hlt : m < 2 ^ 53) :
    (1#1 ++ BitVec.ofNat 52 m).toNat = m := by
  have hbits : (BitVec.ofNat 52 m).toNat = m - 2 ^ 52 := by
    rw [BitVec.toNat_ofNat]
    omega
  rw [BitVec.toNat_append, ← Nat.shiftLeft_add_eq_or_of_lt (BitVec.ofNat 52 m).isLt, hbits,
    Nat.shiftLeft_eq]
  simp
  omega

theorem log2_eq {m k : Nat} (hle : 2 ^ (52 + k) ≤ m) (hlt : m < 2 ^ (53 + k)) : m.log2 = 52 + k := by
  have hne : m ≠ 0 := Nat.ne_of_gt (Nat.lt_of_lt_of_le (Nat.two_pow_pos _) hle)
  rw [Nat.log2_eq_iff hne]
  exact ⟨hle, by rwa [Nat.add_right_comm]⟩

theorem pack_finite (s : Sign) (m : Nat) (e : Int) (h : 0 < m) :
    UnpackedFloat.pack .binary64 (.finite s m e h) =
      if 2 ^ 11 ≤ (e + 1023 + 52).toNat + 1 then packedInfinity .binary64 s
      else if m.log2 + 1 = 53 then
        packComponents .binary64 s (.ofNat 11 (e + 1023 + 52).toNat) (.ofNat 52 m)
      else packComponents .binary64 s 0#11 (.ofNat 52 m) := rfl

/-- Unless its exponent is the least or the greatest, a double has a leading bit. -/
theorem unpack_packComponents {s : Sign} {exponent : BitVec 11} {mantissa : BitVec 52}
    (hfinite : exponent ≠ -1#11) (hnormal : exponent ≠ 0#11) :
    ∃ h, UnpackedFloat.unpack .binary64 (packComponents .binary64 s exponent mantissa) =
      .finite s (1#1 ++ mantissa).toNat (exponent.toNat - 1075) h := by
  delta UnpackedFloat.unpack
  dsimp only
  rw [if_neg (by rwa [unpackExponent_packComponents]), if_neg (by rwa [unpackExponent_packComponents])]
  refine ⟨?_, (UnpackedFloat.finite.injEq ..).mpr ⟨unpackSign_packComponents, ?_, ?_⟩⟩
  · have hbit : (1#1).toNat <<< 52 = 2 ^ 52 := rfl
    rw [BitVec.toNat_append, ← Nat.shiftLeft_add_eq_or_of_lt mantissa.isLt, hbit]
    omega
  · rw [unpackMantissa_packComponents]
  · rw [unpackExponent_packComponents]
    rfl

/-- A number with all its digits, and with an exponent that is not the one of infinity, is kept. -/
theorem unpack_pack_normal {m : Nat} {e : Int} (h : 0 < m) (hle : 2 ^ 52 ≤ m) (hlt : m < 2 ^ 53)
    (he : -1074 ≤ e) (he' : e ≤ 971) :
    (Float.Model.pack (.finite .positive m e h)).unpack = .finite .positive m e h := by
  have hlog : m.log2 + 1 = 53 := by rw [log2_eq (k := 0) hle hlt]
  obtain ⟨b, rfl⟩ : ∃ b : Nat, e = b - 1075 := ⟨(e + 1075).toNat, by omega⟩
  have hbiased : ((b : Int) - 1075 + 1023 + 52).toNat = b := by omega
  have hpacked : UnpackedFloat.pack .binary64 (.finite .positive m (b - 1075) h) =
      packComponents .binary64 .positive (BitVec.ofNat 11 b) (BitVec.ofNat 52 m) := by
    rw [pack_finite, hbiased, if_neg (by omega), if_pos hlog]
  have htoNat : (BitVec.ofNat 11 b).toNat = b := by
    rw [BitVec.toNat_ofNat, Nat.mod_eq_of_lt (by omega)]
  have hfinite : BitVec.ofNat 11 b ≠ -1#11 := by
    intro heq
    have hvalue := congrArg BitVec.toNat heq
    rw [htoNat] at hvalue
    simp at hvalue
    omega
  have hnormal : BitVec.ofNat 11 b ≠ 0#11 := by
    intro heq
    have hvalue := congrArg BitVec.toNat heq
    rw [htoNat] at hvalue
    simp at hvalue
    omega
  change UnpackedFloat.unpack .binary64 (UnpackedFloat.pack .binary64 _) = _
  obtain ⟨hpos, hunpacked⟩ := unpack_packComponents (s := .positive) hfinite hnormal
  rw [hpacked, hunpacked]
  exact (UnpackedFloat.finite.injEq ..).mpr ⟨rfl, toNat_append_mantissa hle hlt, by rw [htoNat]⟩

theorem unpack_pack_whole (h : 0 < n) (hn : n.log2 ≤ 52) :
    (Float.Model.pack (whole n h)).unpack = whole n h := by
  obtain ⟨hle, hlt⟩ := mantissa_whole h hn
  exact unpack_pack_normal _ hle hlt (by omega) (by omega)

/-! What the operations do with positive numbers. -/

section

variable {m k : Nat} {e f : Int} (hm : 0 < m) (hk : 0 < k)

theorem mul_positive : UnpackedFloat.mul .binary64 (.finite .positive m e hm) (.finite .positive k f hk) =
    roundWithAccuracy .binary64 .positive (m * k) (e + f) .exact := rfl

theorem add_positive : UnpackedFloat.add .binary64 (.finite .positive m e hm) (.finite .positive k f hk) =
    .normalize .binary64 ((decreaseExponent m e (min e f)).1 + (decreaseExponent k f (min e f)).1)
      (min e f) .positive := rfl

theorem div_positive : UnpackedFloat.div .binary64 (.finite .positive m e hm) (.finite .positive k f hk) =
    let (q, e, accuracy) := divCore .binary64 m e k f
    roundWithAccuracy .binary64 .positive q e accuracy := rfl

end

theorem mul_one (h : 0 < n) (hn : n.log2 ≤ 52) :
    UnpackedFloat.mul .binary64 (whole n h) (whole 1 Nat.one_pos) = whole n h := by
  have hround := roundWithAccuracy_whole (j := 52 - n.log2 + 52) h (by omega) hn
  have hexponent : (n.log2 : Int) - 52 + ((0 : Nat) - 52) = -((52 - n.log2 + 52 : Nat) : Int) := by
    omega
  have hone : Nat.log2 1 = 0 := by decide
  rw [whole, whole, mul_positive, hone, hexponent, Nat.one_mul, Nat.mul_assoc, ← Nat.pow_add]
  exact hround

theorem add_one (h : 0 < n) (hn : n.log2 ≤ 52) (hsucc : (n + 1).log2 ≤ 52) :
    UnpackedFloat.add .binary64 (whole n h) (whole 1 Nat.one_pos) = whole (n + 1) n.succ_pos := by
  have hround := normalize_whole (j := 52) n.succ_pos hsucc
  have hone : Nat.log2 1 = 0 := by decide
  have hmin : min ((n.log2 : Int) - 52) (((0 : Nat) : Int) - 52) = -(52 : Nat) := by omega
  have hshift : ((n.log2 : Int) - 52 - -(52 : Nat)).toNat = n.log2 := by omega
  have hunit : (((0 : Nat) : Int) - 52 - -(52 : Nat)).toNat = 0 := by omega
  have hwhole : n * 2 ^ (52 - n.log2) * 2 ^ n.log2 = n * 2 ^ 52 := by
    rw [Nat.mul_assoc, ← Nat.pow_add]
    congr 2
    omega
  rw [whole, whole, add_positive, hone, hmin]
  simp only [decreaseExponent, hshift, hunit, Nat.shiftLeft_eq, hwhole]
  rw [show ((n * 2 ^ 52 : Nat) : Int) + ((1 * 2 ^ (52 - 0) * 2 ^ 0 : Nat) : Int) =
    (((n + 1) * 2 ^ 52 : Nat) : Int) by omega]
  exact hround

theorem div_self (h : 0 < n) :
    UnpackedFloat.div .binary64 (whole n h) (whole n h) = whole 1 Nat.one_pos := by
  have hround := roundWithAccuracy_whole (n := 1) (j := 53) Nat.one_pos (by decide) (by decide)
  have hpos : 0 < n * 2 ^ (52 - n.log2) := Nat.mul_pos h (Nat.two_pow_pos _)
  have hcore : ∀ (m : Nat) (e : Int), 0 < m →
      divCore .binary64 m e m e = (1 * 2 ^ 53, -((53 : Nat) : Int), .exact) := by
    intro m e hm
    have htarget : min (e - e) (Format.binary64.targetExponent
        (totalExponent m e - totalExponent m e)) = -(53 : Nat) := by
      simp only [Int.sub_self, Format.targetExponent, Format.minExponent, mantissaBits_binary64]
      decide
    have hshift : (e - e - -(53 : Nat)).toNat = 53 := by omega
    simp only [divCore, htarget, hshift, Nat.shiftLeft_eq]
    rw [Nat.mul_div_cancel_left _ hm, Nat.mul_mod_right]
    rfl
  rw [whole, div_positive, hcore _ _ hpos]
  exact hround

theorem ofNat_eq_whole (h : 0 < n) (hn : n.log2 ≤ 52) :
    Float.ofNat n = .ofModel (.pack (whole n h)) := by
  have hlt : n < 2 ^ 53 := (Nat.log2_lt (by omega)).mp (by omega)
  have hcast : n.toUInt64.toNat = n := UInt64.toNat_ofNat_of_lt' (show n < 2 ^ 64 by omega)
  have hmodel : Float.Model.ofUInt64 n.toUInt64 = .pack (whole n h) := by
    have hround := normalize_whole (j := 0) h hn
    simp only [Float.Model.ofUInt64, UnpackedFloat.ofUInt64, UnpackedFloat.ofNat,
      UnpackedFloat.ofInt, hcast]
    simpa using congrArg Float.Model.pack hround
  have hunit : Float.Model.ofBits 0x3FF0000000000000 = .pack (whole 1 Nat.one_pos) := by
    decide
  have hscaled : Float.ofNat n =
      .ofModel (Float.Model.ofUInt64 n.toUInt64 * Float.Model.ofBits 0x3FF0000000000000) := by
    rw [Float.ofNat]
    simp only [OfScientific.ofScientific, Float.ofScientific]
    rw [dif_pos ⟨hlt, by decide⟩]
    rfl
  rw [hscaled, hmodel, hunit]
  change Float.ofModel (.pack (UnpackedFloat.mul .binary64 (Float.Model.unpack _) (Float.Model.unpack _))) = _
  rw [unpack_pack_whole h hn, unpack_pack_whole Nat.one_pos (by decide), mul_one h hn]

theorem log2_le (h : 0 < n) (hn : n < 2 ^ 53) : n.log2 ≤ 52 :=
  Nat.lt_succ_iff.mp ((Nat.log2_lt (Nat.ne_of_gt h)).mpr hn)

theorem ofNat_add_one (h : 0 < n) (hn : n + 1 < 2 ^ 53) :
    Float.ofNat n + Float.ofNat 1 = Float.ofNat (n + 1) := by
  have hlog := log2_le h (by omega)
  have hsucc := log2_le n.succ_pos hn
  rw [ofNat_eq_whole h hlog, ofNat_eq_whole Nat.one_pos (by decide),
    ofNat_eq_whole n.succ_pos hsucc, ← add_one h hlog hsucc]
  change Float.ofModel (.pack (UnpackedFloat.add .binary64 (Float.Model.unpack _)
    (Float.Model.unpack _))) = _
  rw [unpack_pack_whole h hlog, unpack_pack_whole Nat.one_pos (by decide)]

theorem ofNat_div_self (h : 0 < n) (hn : n < 2 ^ 53) :
    Float.ofNat n / Float.ofNat n = Float.ofNat 1 := by
  have hlog := log2_le h hn
  rw [ofNat_eq_whole h hlog, ofNat_eq_whole Nat.one_pos (by decide), ← div_self h]
  change Float.ofModel (.pack (UnpackedFloat.div .binary64 (Float.Model.unpack _)
    (Float.Model.unpack _))) = _
  rw [unpack_pack_whole h hlog]

theorem sum_ones (h : 0 < n) (hn : n < 2 ^ 53) :
    Scalar.sum (List.replicate n (Float.ofNat 1)) = Float.ofNat n := by
  induction n with
  | zero => cases h
  | succ n ih =>
    rw [List.replicate_succ', Scalar.sum_append_singleton]
    rcases Nat.eq_zero_or_pos n with rfl | hpos
    · decide
    · rw [ih hpos (by omega), ofNat_add_one hpos hn]

/-- The mean of ones is one. -/
theorem mean_ones (h : 0 < n) (hn : n < 2 ^ 53) :
    Scalar.sum (List.replicate n (Float.ofNat 1)) / Float.ofNat n = Float.ofNat 1 := by
  rw [sum_ones h hn, ofNat_div_self h hn]

end FleetSizing.WholeNumbers
