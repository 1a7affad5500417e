import FleetSizing.Cluster.Knee
import FleetSizing.Proofs.Scalar.Rational

/-! A level curve has no knee: what cancels out leaves nothing to compare. -/
namespace FleetSizing

open Float.Model

/-- A number less itself is negligible, or else undefined, and then nothing lies below what is computed
with it. -/
class Scalar.Cancels (α : Type) [Scalar α] : Prop where
  sub_self : ∀ x : α, x - x ≤ Scalar.epsilon ∨ ∀ a b c : α, ¬ a < ((1 : Nat) : α) - (x - x) / b - c

instance : Scalar.Cancels Rat where
  sub_self x := by
    rw [Rat.sub_self]
    exact Or.inl (le_of_lt Scalar.epsilon_pos)

namespace DoubleCancel

theorem sub_self (a : UnpackedFloat) :
    a.sub .binary64 a = .zero .positive ∨ a.sub .binary64 a = .notANumber := by
  cases a with
  | infinity s => cases s <;> exact Or.inr rfl
  | notANumber => exact Or.inr rfl
  | zero s => cases s <;> exact Or.inl rfl
  | finite s m e _ =>
    left
    change UnpackedFloat.normalize .binary64 (_ - _) _ .positive = _
    rw [Int.sub_self]
    rfl

def undefined : Float := .ofModel (.pack .notANumber)

theorem unpack_undefined : undefined.toModel.unpack = .notANumber := rfl

theorem undefined_div (x : Float) : undefined / x = undefined := by
  change Float.ofModel (.pack (UnpackedFloat.div .binary64 undefined.toModel.unpack x.toModel.unpack)) = _
  rw [unpack_undefined]
  rfl

theorem undefined_sub (x : Float) : undefined - x = undefined := by
  change Float.ofModel (.pack (UnpackedFloat.sub .binary64 undefined.toModel.unpack x.toModel.unpack)) = _
  rw [unpack_undefined]
  rfl

theorem sub_undefined (x : Float) : x - undefined = undefined := by
  change Float.ofModel (.pack (UnpackedFloat.sub .binary64 x.toModel.unpack undefined.toModel.unpack)) = _
  rw [unpack_undefined]
  cases x.toModel.unpack <;> rfl

theorem not_lt_undefined (x : Float) : ¬ x < undefined := by
  have hlt : x.toModel.unpack.lt undefined.toModel.unpack = false := by
    rw [unpack_undefined]
    cases x.toModel.unpack <;> rfl
  intro h
  have htrue : x.toModel.unpack.lt undefined.toModel.unpack = true := decide_eq_true_iff.mp h
  rw [hlt] at htrue
  cases htrue

end DoubleCancel

open DoubleCancel in
instance : Scalar.Cancels Float where
  sub_self x := by
    have hsub : x - x = .ofModel (.pack (UnpackedFloat.sub .binary64 x.toModel.unpack x.toModel.unpack)) := rfl
    rcases sub_self x.toModel.unpack with hzero | hnone
    · rw [hsub, hzero]
      exact Or.inl (by decide)
    · right
      intro a b c
      rw [hsub, hnone]
      change ¬ a < _ - undefined / b - c
      rw [undefined_div, sub_undefined, undefined_sub]
      exact not_lt_undefined a

namespace Knee

variable {α : Type} [Scalar α] {least range v : α} {n i k : Nat}

omit [Scalar α] in
theorem foldl_replicate {f : α → α → α} (h : f v v = v) : (List.replicate n v).foldl f v = v := by
  induction n with
  | zero => rfl
  | succ n ih => rw [List.replicate_succ, List.foldl_cons, h, ih]

theorem steepest_replicate (h : ∀ i, ¬ ((0 : Nat) : α) < drop least range n i v) :
    steepest least range n i none (List.replicate k v) = none := by
  induction k generalizing i with
  | zero => rfl
  | succ k ih =>
    simp only [List.replicate_succ, steepest, Option.map_none, Option.getD_none, if_neg (h i)]
    exact ih

theorem knee?_replicate [Scalar.Cancels α] (n : Nat) (v : α) : knee? (List.replicate n v) = none := by
  match n with
  | 0 | 1 | 2 => rfl
  | n + 3 =>
    have hmost : (List.replicate (n + 2) v).foldl Scalar.larger v = v :=
      foldl_replicate (by unfold Scalar.larger; split <;> simp)
    have hleast : (List.replicate (n + 2) v).foldl Scalar.smaller v = v :=
      foldl_replicate (by unfold Scalar.smaller; split <;> simp)
    rw [List.replicate_succ, List.replicate_succ, List.replicate_succ, knee?]
    simp only [← List.replicate_succ, hmost, hleast]
    rcases Scalar.Cancels.sub_self v with hzero | hnone
    · rw [if_pos hzero]
    · split
      · rfl
      · rw [steepest_replicate fun i => hnone _ _ _]
        rfl

theorem clusterCount_replicate [Scalar.Cancels α] (n : Nat) (v : α) :
    clusterCount (List.replicate n v) = 1 := by
  rw [clusterCount, knee?_replicate]
  split <;> split <;> rfl

end Knee

end FleetSizing
