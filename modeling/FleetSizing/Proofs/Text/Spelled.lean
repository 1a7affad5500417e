import FleetSizing.Proofs.Words
import FleetSizing.Text.Blank
import FleetSizing.Text.Integer
import Mathlib.Data.List.DropRight

/-! Which texts spell a whole number, and what is left of a text without the blanks at its ends. -/
namespace FleetSizing

/-- One digit or more in tens, after a sign or none. -/
inductive Spells : List Char → Int → Prop where
  | plain {ds : List Char} : ds ≠ [] → (∀ c ∈ ds, c.isDigit) → Spells ds (Nat.ofDigitChars 10 ds 0)
  | plus {ds : List Char} : ds ≠ [] → (∀ c ∈ ds, c.isDigit) →
      Spells ('+' :: ds) (Nat.ofDigitChars 10 ds 0)
  | minus {ds : List Char} : ds ≠ [] → (∀ c ∈ ds, c.isDigit) →
      Spells ('-' :: ds) (-Nat.ofDigitChars 10 ds 0)

section

variable {c : Char} {ds cs : List Char} {n : Nat} {s : String} {z : Int}

theorem le_iff_toNat (d : Char) : d ≤ c ↔ d.toNat ≤ c.toNat := by
  rw [Char.le_def, UInt32.le_iff_toNat_le]
  rfl

theorem isDigit_bounds (h : c.isDigit) : 48 ≤ c.toNat ∧ c.toNat ≤ 57 := by
  simpa [Char.isDigit, UInt32.le_iff_toNat_le] using h

/-- Letters stand for ten and more. -/
theorem digitIn?_ten : digitIn? 10 c = if c.isDigit then some (c.toNat - 48) else none := by
  unfold digitIn? hexDigit?
  split_ifs with hdigit hlower hupper
  · have hbounds := isDigit_bounds hdigit
    exact Option.filter_some_pos (decide_eq_true (by omega))
  · have hletter : 97 ≤ c.toNat := (le_iff_toNat 'a').mp hlower.1
    exact Option.filter_some_neg (decide_eq_false (by omega))
  · have hletter : 65 ≤ c.toNat := (le_iff_toNat 'A').mp hupper.1
    exact Option.filter_some_neg (decide_eq_false (by omega))
  · rfl

theorem foldlM_digitIn?_ten (ds : List Char) (n : Nat) :
    ds.foldlM (fun n c => (digitIn? 10 c).map (n * 10 + ·)) n =
      if ds.all Char.isDigit then some (Nat.ofDigitChars 10 ds n) else none := by
  induction ds generalizing n with
  | nil => rfl
  | cons c ds ih =>
    rw [List.foldlM_cons, digitIn?_ten, List.all_cons]
    by_cases hdigit : c.isDigit
    · rw [if_pos hdigit, hdigit, Bool.true_and, Nat.ofDigitChars_cons, Nat.mul_comm 10 n]
      exact ih (n * 10 + (c.toNat - 48))
    · rw [if_neg hdigit, eq_false_of_ne_true hdigit]
      rfl

theorem naturalIn?_ten_eq_some_iff : naturalIn? 10 ds = some n ↔
    ds ≠ [] ∧ (∀ c ∈ ds, c.isDigit) ∧ n = Nat.ofDigitChars 10 ds 0 := by
  rw [naturalIn?, foldlM_digitIn?_ten, ← List.all_eq_true]
  cases ds with
  | nil => simp
  | cons d ds =>
    rw [if_neg (by simp)]
    by_cases hall : (d :: ds).all Char.isDigit
    · rw [if_pos hall, Option.some.injEq, eq_comm]
      exact ⟨fun h => ⟨List.cons_ne_nil d ds, hall, h⟩, fun h => h.2.2⟩
    · rw [if_neg hall]
      exact ⟨nofun, fun h => (hall h.2.1).elim⟩

theorem bind_pure_intCast (o : Option Nat) : (do let n ← o; pure (n : Int)) = o.map Int.ofNat := by
  cases o <;> rfl

theorem integerIn?_ten_eq_some_iff : integerIn? 10 cs = some z ↔ Spells cs z := by
  simp only [integerIn?, bind_pure_intCast, Option.map_map]
  constructor
  · intro h
    split at h <;> obtain ⟨n, hn, rfl⟩ := Option.map_eq_some_iff.mp h <;>
      obtain ⟨hne, hall, rfl⟩ := naturalIn?_ten_eq_some_iff.mp hn
    · exact .minus hne hall
    · exact .plus hne hall
    · exact .plain hne hall
  · intro h
    cases h with
    | minus hne hall =>
      exact Option.map_eq_some_iff.mpr ⟨_, naturalIn?_ten_eq_some_iff.mpr ⟨hne, hall, rfl⟩, rfl⟩
    | plus hne hall =>
      exact Option.map_eq_some_iff.mpr ⟨_, naturalIn?_ten_eq_some_iff.mpr ⟨hne, hall, rfl⟩, rfl⟩
    | plain hne hall =>
      split
      · exact absurd (hall '-' List.mem_cons_self) (by decide)
      · exact absurd (hall '+' List.mem_cons_self) (by decide)
      · exact Option.map_eq_some_iff.mpr ⟨_, naturalIn?_ten_eq_some_iff.mpr ⟨hne, hall, rfl⟩, rfl⟩

/-- A 64-bit integer is spelled in digits with a sign or none, and is within its bounds. -/
theorem parseInt64?_eq_some_iff : parseInt64? s = some z ↔
    Spells s.toList z ∧ -9223372036854775808 ≤ z ∧ z < 9223372036854775808 := by
  rw [parseInt64?, Option.filter_eq_some_iff, integerIn?_ten_eq_some_iff, isSigned_iff]

end

namespace Blank

variable {s : String} {cs before after : List Char}

theorem skip_eq_nil_iff : skip cs = [] ↔ ∀ c ∈ cs, isBlank c := List.dropWhile_eq_nil_iff

theorem skip_append (hbefore : ∀ c ∈ before, isBlank c) : skip (before ++ cs) = skip cs :=
  List.dropWhile_append_of_pos hbefore

/-- Blanks at the end go, unless there is nothing else. -/
theorem skip_append_blanks (hafter : ∀ c ∈ after, isBlank c) :
    skip (skip (cs ++ after)).reverse = skip (skip cs).reverse := by
  rw [skip, skip, List.dropWhile_append]
  split
  · rename_i hnil
    rw [List.isEmpty_iff] at hnil
    rw [skip, skip, hnil, List.dropWhile_eq_nil_iff.mpr hafter]
  · rw [List.reverse_append]
    exact skip_append fun c hc => hafter c (List.mem_reverse.mp hc)

theorem trim_append (hbefore : ∀ c ∈ before, isBlank c) (hafter : ∀ c ∈ after, isBlank c) :
    trim (String.ofList (before ++ s.toList ++ after)) = trim s := by
  rw [trim, trim, String.toList_ofList, List.append_assoc, skip_append hbefore, skip_append_blanks hafter]

/-- A text is trimmed to nothing only if it is blank. -/
theorem trim_isEmpty_iff : (trim s).isEmpty ↔ ∀ c ∈ s.toList, isBlank c := by
  have hskipped : (∀ c ∈ (skip s.toList).reverse, isBlank c) ↔ skip s.toList = [] := by
    constructor
    · intro hall
      have hagain : skip (skip s.toList) = [] :=
        skip_eq_nil_iff.mpr fun c hc => hall c (List.mem_reverse.mpr hc)
      exact (List.dropWhile_idempotent isBlank s.toList).symm.trans hagain
    · intro hnil
      rw [hnil]
      exact nofun
  rw [trim, String.isEmpty_iff, String.ofList_eq_empty_iff, List.reverse_eq_nil_iff, skip_eq_nil_iff,
    hskipped, skip_eq_nil_iff]

end Blank

end FleetSizing
