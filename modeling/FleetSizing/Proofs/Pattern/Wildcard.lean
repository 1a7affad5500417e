import FleetSizing.Rule
import FleetSizing.Proofs.Pattern.Reading

/-! What the wildcard of a rule accepts. The anchor in front of it holds for the first alternative; the
others are found anywhere in the text. -/
namespace FleetSizing

open Pattern

namespace Rule

/-- The condition of a rule in both directions, ready for use. -/
theorem matcher?_matches {compiler : Compiler} {r : Rule} {m : Matcher}
    (h : { r with condition := .matches }.matcher? compiler = some m) :
    ∃ p, compiler.compile? (wildcard r.value.toList) = some p ∧ m = .matches p ∧
      { r with condition := .notMatches }.matcher? compiler = some (.notMatches p) := by
  obtain ⟨p, hp, rfl⟩ := Option.map_eq_some_iff.mp h
  refine ⟨p, hp, rfl, ?_⟩
  simp only [matcher?, hp, Option.map_some]

/-- A wildcard accepts the texts that begin with its first alternative and those that one of the others
matches anywhere. -/
theorem wildcard_accepts_iff (compiler : Compiler) (r : Rule) {m : Matcher} {body : Pattern}
    (hmatcher : { r with condition := .matches }.matcher? compiler = some m)
    (hbody : compiler.compile? (wildcardBody r.value.toList) = some body) :
    ∃ n first rest, { r with condition := .notMatches }.matcher? compiler = some n ∧
      alternatives? (wildcardBody r.value.toList) = some (first :: rest) ∧
      ∀ text : String, let t : Subject := text.toList.toArray
        n.accepts text = !m.accepts text ∧
        (∀ i j, Matches t body i j ↔ OneOf t (first :: rest) i j) ∧
        (m.accepts text ↔ (∃ j, Matches t first 0 j) ∨ ∃ i ≤ t.size, ∃ j, OneOf t rest i j) ∧
        ((m.accepts text → ∃ j, Matches t body 0 j) ↔
          ((∃ i ≤ t.size, ∃ j, OneOf t rest i j) → ∃ j, Matches t body 0 j)) ∧
        (rest = [] → (m.accepts text ↔ ∃ j, Matches t body 0 j)) := by
  obtain ⟨p, hp, rfl, hnot⟩ := matcher?_matches hmatcher
  obtain ⟨first, rest, halternatives, hmatches⟩ :=
    read?_anchored (Compiler.read?_of_compile? hbody) (Compiler.read?_of_compile? hp)
  refine ⟨_, first, rest, hnot, halternatives, fun text => ?_⟩
  intro t
  have hbody' : ∀ i j, Matches t body i j ↔ OneOf t (first :: rest) i j := fun i j => (hmatches t i j).1
  have haccepts : (Matcher.matches p).accepts text ↔
      (∃ j, Matches t first 0 j) ∨ ∃ i ≤ t.size, ∃ j, OneOf t rest i j := by
    rw [Matcher.accepts, isMatch_iff]
    simp only [(hmatches _ _ _).2]
    constructor
    · rintro ⟨i, hi, j, ⟨rfl, hfirst⟩ | hrest⟩
      · exact Or.inl ⟨j, hfirst⟩
      · exact Or.inr ⟨i, hi, j, hrest⟩
    · rintro (⟨j, hfirst⟩ | ⟨i, hi, j, hrest⟩)
      · exact ⟨0, Nat.zero_le _, j, Or.inl ⟨rfl, hfirst⟩⟩
      · exact ⟨i, hi, j, Or.inr hrest⟩
  have hstart : (∃ j, Matches t first 0 j) → ∃ j, Matches t body 0 j := by
    rintro ⟨j, hfirst⟩
    exact ⟨j, (hbody' 0 j).mpr (oneOf_cons.mpr (Or.inl hfirst))⟩
  refine ⟨rfl, hbody', haccepts, ?_, ?_⟩
  · rw [haccepts, or_imp, and_iff_right hstart]
  · rintro rfl
    have hnone : ∀ i j, ¬ OneOf t [] i j := by
      rintro i j ⟨p, hp, -⟩
      cases hp
    simp only [haccepts, hbody', oneOf_cons, hnone, or_false, exists_false, and_false]

/-! The shapes of two families, as an author would write them. -/
namespace TwoFamilies

def rule : Rule := ⟨"families", .aws, .allow, .matches, .name, "t3|m5"⟩

def body : Pattern := .alt (.text ['t', '3']) (.text ['m', '5'])

def matcher : Matcher := .matches (.alt (.seq (.look .textStart) (.text ['t', '3'])) (.text ['m', '5']))

end TwoFamilies

/-- A shape of the second family is also accepted with something in front of it. -/
theorem wildcard_accepts_later_match :
    let t : Subject := "xm5.large".toList.toArray
    TwoFamilies.rule.matcher? .byLength = some TwoFamilies.matcher ∧
      Compiler.byLength.compile? (wildcardBody TwoFamilies.rule.value.toList) = some TwoFamilies.body ∧
      TwoFamilies.matcher.accepts "xm5.large" ∧
      Matches t TwoFamilies.body 1 3 ∧ ¬ ∃ j, Matches t TwoFamilies.body 0 j := by
  intro t
  refine ⟨by decide, by decide, by decide, ?_, ?_⟩
  · exact (mem_ends_iff (by decide)).mp (by decide)
  · rintro ⟨j, hmatch⟩
    have hends : ends t TwoFamilies.body 0 = [] := by decide
    rw [← mem_ends_iff (Nat.zero_le _), hends] at hmatch
    cases hmatch

theorem wildcard_accepts_iff_two_families :
    { TwoFamilies.rule with condition := .matches }.matcher? .byLength = some TwoFamilies.matcher ∧
      Compiler.byLength.compile? (wildcardBody TwoFamilies.rule.value.toList) = some TwoFamilies.body ∧
      TwoFamilies.matcher.accepts "t3.small" ∧ TwoFamilies.matcher.accepts "xm5.large" := by
  have hmatcher : { TwoFamilies.rule with condition := .matches }.matcher? .byLength =
      some TwoFamilies.matcher := by
    decide
  have hbody : Compiler.byLength.compile? (wildcardBody TwoFamilies.rule.value.toList) =
      some TwoFamilies.body := by
    decide
  obtain ⟨n, first, rest, -, halternatives, haccepts⟩ :=
    wildcard_accepts_iff .byLength TwoFamilies.rule hmatcher hbody
  have hread : alternatives? (wildcardBody TwoFamilies.rule.value.toList) =
      some [.text ['t', '3'], .text ['m', '5']] := by
    decide
  obtain ⟨rfl, rfl⟩ : Pattern.text ['t', '3'] = first ∧ [Pattern.text ['m', '5']] = rest := by
    simpa [hread] using halternatives
  refine ⟨hmatcher, hbody, ?_, ?_⟩
  · exact (haccepts "t3.small").2.2.1.mpr (Or.inl ⟨2, .text (by decide)⟩)
  · exact (haccepts "xm5.large").2.2.1.mpr
      (Or.inr ⟨1, by decide, 3, _, List.mem_cons_self, .text (by decide)⟩)

end Rule

end FleetSizing
