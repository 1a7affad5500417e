import FleetSizing.Scalar
import Mathlib.Algebra.Order.Field.Basic
import Mathlib.Algebra.Order.Field.Rat
import Mathlib.Tactic.Linarith
import Mathlib.Tactic.NormNum
import Mathlib.Tactic.Positivity

/-! The operations of a scalar and its constants, read as exact numbers. -/
namespace FleetSizing.Scalar

theorem ratio_rat (p q : Nat) : (ratio p q : Rat) = (p : Rat) / (q : Rat) := rfl

theorem ratio_nonneg (p q : Nat) : (0 : Rat) ≤ ratio p q := by
  rw [ratio_rat]
  positivity

theorem half_le_one : ratio 1 2 ≤ ((1 : Nat) : Rat) := by
  norm_num [ratio_rat]

theorem epsilon_lt_one : epsilon < (1 : Rat) := by
  norm_num [epsilon, ratio_rat]

theorem epsilon_pos : 0 < (epsilon : Rat) := by
  norm_num [epsilon, ratio_rat]

theorem smaller_eq_min (x y : Rat) : smaller x y = min x y := by
  unfold smaller
  split
  · rename_i hlt
    exact (min_eq_right hlt.le).symm
  · rename_i hle
    rw [if_pos (BEq.refl x), min_eq_left (not_lt.mp hle)]

theorem larger_eq_max (x y : Rat) : larger x y = max x y := by
  unfold larger
  split
  · rename_i hlt
    exact (max_eq_right hlt.le).symm
  · rename_i hle
    rw [if_pos (BEq.refl x), max_eq_left (not_lt.mp hle)]

theorem le_larger (x y : Rat) : y ≤ larger x y := by
  rw [larger_eq_max]
  exact le_max_right x y

theorem sum_ones (n : Nat) : sum (List.replicate n ((1 : Nat) : Rat)) = n := by
  induction n with
  | zero => rfl
  | succ n ih =>
    rw [List.replicate_succ', sum_append_singleton, ih]
    exact (Rat.natCast_add n 1).symm

theorem share_self {n : Nat} (h : 0 < n) : (n : Rat) / (n : Rat) = ((1 : Nat) : Rat) := by
  rw [Rat.div_def]
  exact Rat.mul_inv_cancel _ (Rat.ne_of_gt (Rat.natCast_pos.mpr h))

theorem clamp_eq_max_min {lo hi : Rat} (h : lo ≤ hi) (x : Rat) : clamp lo hi x = max lo (min hi x) := by
  unfold clamp
  split
  · rename_i hlo
    rw [max_eq_left ((min_le_right hi x).trans hlo.le)]
  · rename_i hlo
    split
    · rename_i hhi
      rw [min_eq_left hhi.le, max_eq_right h]
    · rename_i hhi
      rw [min_eq_right (not_lt.mp hhi), max_eq_right (not_lt.mp hlo)]

theorem clamp_mem {lo hi x : Rat} (h : lo ≤ hi) : lo ≤ clamp lo hi x ∧ clamp lo hi x ≤ hi := by
  rw [clamp_eq_max_min h]
  exact ⟨le_max_left _ _, max_le h (min_le_left _ _)⟩

theorem clamp_eq_self {lo hi x : Rat} (hlo : lo ≤ x) (hhi : x ≤ hi) : clamp lo hi x = x := by
  rw [clamp_eq_max_min (hlo.trans hhi), min_eq_right hhi, max_eq_right hlo]

theorem sum_cons (x : Rat) (xs : List Rat) : sum (x :: xs) = x + sum xs := by
  have hfold : ∀ (ys : List Rat) (a : Rat), ys.foldl (· + ·) (x + a) = x + ys.foldl (· + ·) a := by
    intro ys
    induction ys with
    | nil => exact fun _ => rfl
    | cons y ys ih =>
      intro a
      rw [List.foldl_cons, List.foldl_cons, Rat.add_assoc, ih]
  have hstart : sum (x :: xs) = xs.foldl (· + ·) (x + 0) :=
    congrArg (fun a => xs.foldl (· + ·) a) (Rat.add_comm 0 x)
  exact hstart.trans (hfold xs 0)

theorem sum_mem {xs : List Rat} {lo hi : Rat} (h : ∀ x ∈ xs, lo ≤ x ∧ x ≤ hi) :
    lo * (xs.length : Rat) ≤ sum xs ∧ sum xs ≤ hi * (xs.length : Rat) := by
  induction xs with
  | nil => exact ⟨le_of_eq (Rat.mul_zero lo), le_of_eq (Rat.mul_zero hi).symm⟩
  | cons x xs ih =>
    obtain ⟨hlo, hhi⟩ := h x List.mem_cons_self
    obtain ⟨ihlo, ihhi⟩ := ih fun y hy => h y (List.mem_cons_of_mem _ hy)
    rw [sum_cons, List.length_cons, Rat.natCast_add, Rat.mul_add, Rat.mul_add]
    constructor <;> push_cast <;> linarith

end FleetSizing.Scalar
