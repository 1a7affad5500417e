import FleetSizing.Powers
import Mathlib.Algebra.Ring.Int.Defs
import Mathlib.Tactic.SplitIfs

/-! What signed words of 64 bits hold, and what becomes of a difference that they do not. -/
namespace FleetSizing

variable {a b n : Int}

theorem isSigned_iff : isSigned 64 n ↔ -9223372036854775808 ≤ n ∧ n < 9223372036854775808 := by
  simp only [isSigned, Bool.and_eq_true, decide_eq_true_iff]
  exact Iff.rfl

/-- What a word holds of a number that is less than twice as large as it may be. -/
def held (n : Int) : Int :=
  if n < -2 ^ 63 then n + 2 ^ 64 else if n < 2 ^ 63 then n else n - 2 ^ 64

theorem wrapSigned_eq_held (h : -2 ^ 64 ≤ n) (h' : n < 2 ^ 64 + 2 ^ 63) : wrapSigned 64 n = held n := by
  have hpow : pow2 64 = 18446744073709551616 := rfl
  rw [wrapSigned, hpow, Int.bmod_def, held]
  split_ifs <;> omega

theorem held_of_isSigned (h : isSigned 64 n) : held n = n := by
  rw [isSigned_iff] at h
  rw [held, if_neg (by omega), if_pos (by omega)]

theorem wrapSigned_sub (ha : isSigned 64 a) (hb : isSigned 64 b) : wrapSigned 64 (b - a) = held (b - a) := by
  rw [isSigned_iff] at ha hb
  exact wrapSigned_eq_held (by omega) (by omega)

end FleetSizing
