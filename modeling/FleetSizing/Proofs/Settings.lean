import FleetSizing.Settings

/-! The bounds that settings keep if the engine can run with them. -/
namespace FleetSizing.Settings

variable {α : Type} [Scalar α] {s : Settings α}

/-- Faults are sought one after the other; where none is found, each bound holds. -/
theorem fault?_eq_none_iff : s.fault? = none ↔
    s.requiredColumns.isEmpty = false ∧
    (s.recordStepMinutes ≠ 0 ∧ minutesPerDay % s.recordStepMinutes = 0) ∧
    s.maxClusters ≠ 0 ∧ s.smoothingWindow ≠ 0 ∧
    (((0 : Nat) : α) ≤ s.activityThreshold ∧ s.activityThreshold < ((100 : Nat) : α)) ∧
    (((0 : Nat) : α) < s.targetUtilization ∧ s.targetUtilization ≤ ((100 : Nat) : α)) ∧
    (s.minWindowMinutes ≠ 0 ∧ s.minWindowMinutes < minutesPerDay) ∧ s.maxRecommendedShapes ≠ 0 := by
  have hnext : ∀ (c : Prop) [Decidable c] (f : SettingsFault α) (rest : Option (SettingsFault α)),
      (if c then some f else rest) = none ↔ ¬ c ∧ rest = none := by
    intro c _ f rest
    by_cases hc : c <;> simp [hc]
  simp only [fault?, hnext, not_or, Classical.not_not, Nat.not_le, Bool.not_eq_true, ne_eq, and_true]

/-- Steps that settings may name divide a day. -/
theorem recordStepMinutes_bounds (h : s.fault? = none) : 0 < s.recordStepMinutes ∧ s.recordStepMinutes ≤ 1440 := by
  obtain ⟨-, ⟨hpos, hday⟩, -⟩ := fault?_eq_none_iff.mp h
  exact ⟨Nat.pos_of_ne_zero hpos, Nat.le_of_dvd (by decide) (Nat.dvd_of_mod_eq_zero hday)⟩

theorem minWindowMinutes_lt (h : s.fault? = none) : s.minWindowMinutes < minutesPerDay := by
  obtain ⟨-, -, -, -, -, -, ⟨-, hlt⟩, -⟩ := fault?_eq_none_iff.mp h
  exact hlt

end FleetSizing.Settings
