import FleetSizing.Pipeline
import Mathlib.Data.List.Nodup

/-! Well-formed reports. Every stage that rewrites a report only drops actions, and keeps the rest in
line with the actions that remain. -/
namespace FleetSizing

namespace Action

/-- Proposes shapes to move to. -/
def offersShapes : Action → Bool
  | scaleUp | scaleDown | changeShape | split | shutdown => true
  | _ => false

/-- No action twice, one of each kind at most, and nothing beside `noAction`. -/
def Agree (as : List Action) : Prop :=
  as.Nodup ∧ (as.filterMap kind?).Nodup ∧ error ∉ as ∧ (noAction ∈ as → as = [noAction])

instance (as : List Action) : Decidable (Agree as) :=
  inferInstanceAs (Decidable (_ ∧ _ ∧ _ ∧ (_ → _)))

theorem Agree.filter {as : List Action} (h : Agree as) (keep : Action → Bool) :
    Agree (as.filter keep) := by
  obtain ⟨hnodup, hkinds, herror, halone⟩ := h
  refine ⟨hnodup.filter _, hkinds.sublist (List.filter_sublist.filterMap _), ?_, ?_⟩
  · exact fun hm => herror (List.mem_of_mem_filter hm)
  · intro hm
    have hall := halone (List.mem_of_mem_filter hm)
    rw [hall] at hm ⊢
    simpa using hm

end Action

namespace Report

variable {α : Type} {r r' : Report α}

/-- The savings of an action are listed with it, those of a shrunken shape also with a shutdown. -/
def Proposes (r : Report α) (a : Action) : Prop :=
  a ∈ r.actions ∨ (a = .scaleDown ∧ .shutdown ∈ r.actions)

/-- Actions agree with each other and with all other parts of the report; there may be none yet. -/
structure Consistent (r : Report α) : Prop where
  agree : Action.Agree r.actions
  schedule_iff : .schedule ∈ r.actions ↔ r.customSchedule?.isSome
  shapes : ∀ os, r.shapes = some os → os ≠ [] ∧ ∃ a ∈ r.actions, a.offersShapes
  savings : ∀ os, r.savings = some os → ∀ o ∈ os, r.Proposes o.action

structure WellFormed (r : Report α) : Prop extends r.Consistent where
  actions_ne_nil : r.actions ≠ []

theorem Consistent.settled (h : r.Consistent) : r.settled.WellFormed := by
  unfold Report.settled
  split
  · rename_i hempty
    have hnil : r.actions = [] := List.isEmpty_iff.mp hempty
    have hcustom : ¬ r.customSchedule?.isSome := by
      intro hs
      simpa [hnil] using h.schedule_iff.mpr hs
    refine ⟨⟨show Action.Agree [.noAction] by decide, ?_, ?_, ?_⟩, by simp⟩
    · constructor
      · intro hm
        simp at hm
      · exact fun hs => (hcustom hs).elim
    · intro os hos
      obtain ⟨-, a, ha, -⟩ := h.shapes os hos
      simp [hnil] at ha
    · intro os hos o ho
      have hp := h.savings os hos o ho
      simp [Proposes, hnil] at hp
  · rename_i hne
    exact ⟨h, fun hnil => hne (by simp [hnil])⟩

theorem mem_settled_actions {a : Action} (h : a ∈ r.settled.actions) :
    a ∈ r.actions ∨ a = .noAction := by
  unfold settled at h
  split at h
  · exact Or.inr (by simpa using h)
  · exact Or.inl h

theorem withoutResize_wellFormed (h : r.WellFormed) : r.withoutResize.WellFormed := by
  apply Consistent.settled
  refine ⟨h.agree.filter _, ?_, by simp, ?_⟩
  · have hs := h.schedule_iff
    simpa [Action.isResize, customSchedule?] using hs
  · intro os hos o ho
    simp only [Option.map_eq_some_iff] at hos
    obtain ⟨all, hall, rfl⟩ := hos
    simp only [List.mem_filter, Bool.not_eq_true'] at ho
    rcases h.savings all hall o ho.1 with hm | ⟨hdown, -⟩
    · exact Or.inl (by simp [hm, ho.2])
    · simp [hdown, Action.isResize] at ho

variable [Scalar α]

theorem isAlwaysRun_alwaysRun : (Window.alwaysRun (α := α)).isAlwaysRun = true := rfl

theorem withoutSchedule_wellFormed (h : r.WellFormed) : r.withoutSchedule.WellFormed := by
  apply Consistent.settled
  refine ⟨h.agree.filter _, ?_, ?_, ?_⟩
  · simp [customSchedule?, isAlwaysRun_alwaysRun]
  · intro os hos
    obtain ⟨hne, a, ha, hoffers⟩ := h.shapes os hos
    refine ⟨hne, a, ?_, hoffers⟩
    have hns : a ≠ .schedule := by rintro rfl; simp [Action.offersShapes] at hoffers
    simp [ha, hns]
  · intro os hos o ho
    simp only [Option.map_eq_some_iff] at hos
    obtain ⟨all, hall, rfl⟩ := hos
    simp only [List.mem_filter, bne_iff_ne, ne_eq] at ho
    rcases h.savings all hall o ho.1 with hm | ⟨hdown, hshut⟩
    · exact Or.inl (by simp [hm, ho.2])
    · exact Or.inr ⟨hdown, by simp [hshut]⟩

theorem withoutPostponed_wellFormed (p : Postponement) (h : r.WellFormed) :
    (r.withoutPostponed p).WellFormed := by
  unfold withoutPostponed
  simp only
  split
  · exact h
  · apply Consistent.settled
    refine ⟨h.agree.filter _, ?_, ?_, ?_⟩
    · -- The schedule goes exactly when its action does.
      by_cases hc : p.coversAction .schedule
      · by_cases hm : .schedule ∈ r.actions
        · simp [customSchedule?, isAlwaysRun_alwaysRun, hc, hm]
        · have hs := h.schedule_iff
          simpa [customSchedule?, hc, hm] using hs
      · have hs := h.schedule_iff
        simpa [customSchedule?, hc] using hs
    · intro os hos
      simp only at hos
      split at hos
      · cases hos
      · rename_i honly
        obtain ⟨hne, a, ha, hoffers⟩ := h.shapes os hos
        refine ⟨hne, a, ?_, hoffers⟩
        have hns : a ≠ .schedule := by rintro rfl; simp [Action.offersShapes] at hoffers
        by_contra hna
        simp only [List.mem_filter, ha, true_and, Bool.not_eq_true', Bool.not_eq_false] at hna
        exact honly (List.any_eq_true.mpr ⟨a, by simp [ha, hna], by simpa using hns⟩)
    · intro os hos o ho
      simp only [Option.filter_eq_some_iff, Option.map_eq_some_iff] at hos
      obtain ⟨⟨all, -, rfl⟩, -⟩ := hos
      simp only [List.mem_filter, Bool.or_eq_true, Bool.and_eq_true, beq_iff_eq,
        List.contains_iff_mem] at ho
      rcases ho.2 with hm | ⟨hdown, hshut⟩
      · exact Or.inl (by simpa using hm)
      · exact Or.inr ⟨hdown, by simpa using hshut⟩

end Report

end FleetSizing
