import FleetSizing.Keyed
import Mathlib.Data.List.Induction
import Mathlib.Data.List.Nodup

/-! The last value that satisfies a condition. Keyed values built from a list are the last ones under their keys. -/
namespace FleetSizing

section

variable {β : Type} {P : β → Prop} {xs : List β} {x : β}

/-- It satisfies a condition, and no later value does. -/
def IsLast (P : β → Prop) (xs : List β) (x : β) : Prop :=
  P x ∧ ∃ earlier later, xs = earlier ++ x :: later ∧ ∀ y ∈ later, ¬ P y

section

variable [DecidablePred P]

theorem isLast_iff : IsLast P xs x ↔ (xs.filter P).getLast? = some x := by
  rw [List.getLast?_eq_some_iff]
  constructor
  · rintro ⟨hx, earlier, later, rfl, hlater⟩
    have hnone : later.filter P = [] := by
      rw [List.filter_eq_nil_iff]
      simpa using hlater
    exact ⟨earlier.filter P, by simp [hx, hnone]⟩
  · rintro ⟨ys, hys⟩
    obtain ⟨before, after, rfl, -, hafter⟩ := List.filter_eq_append_iff.mp hys
    obtain ⟨between, later, rfl, -, hx, hlater⟩ := List.filter_eq_cons_iff.mp hafter
    rw [List.filter_eq_nil_iff] at hlater
    exact ⟨of_decide_eq_true hx, before ++ between, later, by simp, by simpa using hlater⟩

theorem getLast?_filter_eq_none_iff : (xs.filter P).getLast? = none ↔ ∀ y ∈ xs, ¬ P y := by
  rw [List.getLast?_eq_none_iff, List.filter_eq_nil_iff]
  simp

theorem exists_isLast_or (P : β → Prop) [DecidablePred P] (xs : List β) :
    (∃ x, IsLast P xs x) ∨ ∀ y ∈ xs, ¬ P y := by
  cases hlast : (xs.filter P).getLast? with
  | none => exact Or.inr (getLast?_filter_eq_none_iff.mp hlast)
  | some x => exact Or.inl ⟨x, isLast_iff.mpr hlast⟩

/-- The only value that satisfies a condition is the last one, wherever it stands. -/
theorem isLast_iff_mem (halone : ∀ y ∈ xs, ∀ z ∈ xs, P y → P z → y = z) : IsLast P xs x ↔ x ∈ xs ∧ P x := by
  constructor
  · rintro ⟨hx, earlier, later, rfl, -⟩
    exact ⟨by simp, hx⟩
  · rintro ⟨hmem, hx⟩
    rw [isLast_iff]
    cases hlast : (xs.filter P).getLast? with
    | none => exact absurd hx (getLast?_filter_eq_none_iff.mp hlast x hmem)
    | some y =>
      have hy := List.mem_filter.mp (List.mem_of_getLast? hlast)
      rw [halone y hy.1 x hmem (of_decide_eq_true hy.2) hx]

end

end

namespace Keyed

variable {κ β : Type} [DecidableEq κ] {key : β → κ} {xs : List β} {x : β} {k : κ}

theorem get?_ofList : (ofList xs : Keyed key).get? k = (xs.filter (key · = k)).getLast? := by
  induction xs using List.reverseRecOn with
  | nil => rfl
  | append_singleton xs x ih =>
    rw [ofList, List.foldl_append, List.foldl_cons, List.foldl_nil, get?_insert, ← ofList, ih]
    by_cases hx : key x = k
    · simp [hx]
    · simp [hx]

theorem get?_ofList_eq_some_iff : (ofList xs : Keyed key).get? k = some x ↔ IsLast (key · = k) xs x := by
  rw [get?_ofList, isLast_iff]

theorem get?_ofList_eq_none_iff : (ofList xs : Keyed key).get? k = none ↔ ∀ y ∈ xs, key y ≠ k := by
  rw [get?_ofList, getLast?_filter_eq_none_iff]

/-- Nothing replaces anything where all keys differ. -/
theorem get?_ofList_of_nodup (h : (xs.map key).Nodup) :
    (ofList xs : Keyed key).get? k = some x ↔ x ∈ xs ∧ key x = k := by
  rw [get?_ofList_eq_some_iff, isLast_iff_mem]
  intro y hy z hz hyk hzk
  exact List.inj_on_of_nodup_map h hy hz (hyk.trans hzk.symm)

theorem get?_ofList_perm {ys : List β} (hperm : ys.Perm xs) (h : (xs.map key).Nodup) (k : κ) :
    (ofList ys : Keyed key).get? k = (ofList xs : Keyed key).get? k := by
  have h' : (ys.map key).Nodup := (hperm.map key).nodup_iff.mpr h
  ext x
  rw [get?_ofList_of_nodup h', get?_ofList_of_nodup h, hperm.mem_iff]

end Keyed

end FleetSizing
