import FleetSizing.Proofs.Catalog
import FleetSizing.Selection.Ranking
import Mathlib.Data.List.Nodup

/-! What is selected for a resource: shapes of the catalog that may replace the current one, each once
and not more than asked for. -/
namespace FleetSizing

variable {α : Type}

/-- More cpu or more memory than another shape. -/
def Shape.ExceedsIn [LT α] (s current : Shape α) : Prop :=
  current.cpu < s.cpu ∨ current.memory < s.memory

/-- No more of either, and less of one. -/
def Shape.Within [LT α] [LE α] (s current : Shape α) : Prop :=
  s.cpu ≤ current.cpu ∧ s.memory ≤ current.memory ∧ (s.cpu < current.cpu ∨ s.memory < current.memory)

namespace Selection

/-- A shape of the current cloud that processor compatibility, the forbid flags and the rules all let
pass. -/
structure Admissible (rules : RuleSet) (settings : Settings α) (current s : Shape α) : Prop where
  cloud : s.cloud = current.cloud
  compatible : current.isCompatible settings.compatibility s
  series : settings.forbidChangeSeries → tier current s = .sameSeries
  family : settings.forbidChangeFamily → tier current s ≠ .other
  not_denied : ∀ rule ∈ rules, rule.action = .deny → rule.cloud = current.cloud → ¬ rule.accepts s
  allowed : (∃ rule ∈ rules, rule.action = .allow ∧ rule.cloud = current.cloud) →
    ∃ rule ∈ rules, rule.action = .allow ∧ rule.cloud = current.cloud ∧ rule.accepts s

variable {rules : RuleSet} {settings : Settings α} {current s : Shape α} {cloud : Cloud}

theorem mem_stage {action : RuleAction} {rule : CompiledRule} :
    rule ∈ rules.stage action cloud ↔ rule ∈ rules ∧ rule.action = action ∧ rule.cloud = cloud := by
  simp [RuleSet.stage]

theorem matched_iff {action : RuleAction} : matched rules action cloud s ↔
    ∃ rule ∈ rules, rule.action = action ∧ rule.cloud = cloud ∧ rule.accepts s := by
  simp only [matched, List.any_eq_true, mem_stage, and_assoc]

theorem permitted_iff : permitted rules cloud s ↔
    (∀ rule ∈ rules, rule.action = .deny → rule.cloud = cloud → ¬ rule.accepts s) ∧
      ((∃ rule ∈ rules, rule.action = .allow ∧ rule.cloud = cloud) →
        ∃ rule ∈ rules, rule.action = .allow ∧ rule.cloud = cloud ∧ rule.accepts s) := by
  have hnone : (rules.stage .allow cloud).isEmpty ↔
      ¬ ∃ rule ∈ rules, rule.action = .allow ∧ rule.cloud = cloud := by
    rw [List.isEmpty_iff, List.eq_nil_iff_forall_not_mem]
    simp [mem_stage]
  rw [permitted, Bool.and_eq_true, Bool.or_eq_true, hnone, matched_iff, Bool.not_eq_true',
    ← Bool.not_eq_true, matched_iff]
  refine and_congr ?_ ?_
  · simp
  · exact Decidable.imp_iff_not_or.symm

theorem tierAllowed_iff {t : Tier} : tierAllowed settings t ↔
    (settings.forbidChangeSeries → t = .sameSeries) ∧ (settings.forbidChangeFamily → t ≠ .other) := by
  unfold tierAllowed
  cases settings.forbidChangeSeries <;> cases settings.forbidChangeFamily <;> cases t <;> decide

variable [Scalar α] {r : Requirement α} {price : Shape α → Option α} {catalog : List (Shape α)}

theorem eligible_iff : eligible rules settings current r s ↔
    Admissible rules settings current s ∧ r.satisfiedBy s := by
  simp only [eligible, Bool.and_eq_true, beq_iff_eq, tierAllowed_iff, permitted_iff]
  constructor
  · rintro ⟨⟨⟨⟨hcloud, hfits⟩, hcompatible⟩, hseries, hfamily⟩, hdeny, hallow⟩
    exact ⟨⟨hcloud, hcompatible, hseries, hfamily, hdeny, hallow⟩, hfits⟩
  · rintro ⟨h, hfits⟩
    exact ⟨⟨⟨⟨h.cloud, hfits⟩, h.compatible⟩, h.series, h.family⟩, h.not_denied, h.allowed⟩

theorem ranking_perm (rules : RuleSet) (settings : Settings α) (price : Shape α → Option α)
    (current : Shape α) (r : Requirement α) (catalog : List (Shape α)) :
    (ranking rules settings price current r catalog).Perm
      (catalog.filter (eligible rules settings current r)) := by
  have hperm := (List.mergeSort_perm ((catalog.filter (eligible rules settings current r)).map fun s =>
    (⟨s, segment rules current s, price s⟩ : Candidate α))
    fun a b => !precedes settings.sorting b a).map (·.shape)
  rwa [List.map_map, show ((·.shape) ∘ fun s => (⟨s, segment rules current s, price s⟩ : Candidate α)) =
    id from rfl, List.map_id] at hperm

theorem mem_select (h : s ∈ select rules settings price current r catalog) :
    s ∈ catalog ∧ eligible rules settings current r s :=
  List.mem_filter.mp ((ranking_perm ..).mem_iff.mp (List.mem_of_mem_take h))

theorem length_select_le :
    (select rules settings price current r catalog).length ≤ settings.maxRecommendedShapes :=
  List.length_take_le ..

theorem nodup_select (h : (catalog.map (·.name)).Nodup) :
    ((select rules settings price current r catalog).map (·.name)).Nodup := by
  have hranked : ((ranking rules settings price current r catalog).map (·.name)).Nodup := by
    rw [((ranking_perm rules settings price current r catalog).map (·.name)).nodup_iff]
    exact h.sublist (List.filter_sublist.map _)
  exact hranked.sublist ((List.take_sublist ..).map _)

end Selection

namespace Requirement

variable [Scalar α] {r : Requirement α} {s : Shape α}

/-- The current shape stands only where it may be kept. -/
theorem satisfiedBy_iff : r.satisfiedBy s ↔ r.fits s ∧
    if s.name = r.current.name then r.allowCurrent = true else r.related s = true := by
  unfold satisfiedBy
  split <;> simp [and_comm]

theorem related_scaleUp (h : r.action = .scaleUp) : r.related s ↔ s.ExceedsIn r.current := by
  simp [related, h, Shape.ExceedsIn]

theorem related_smaller (h : r.action = .scaleDown ∨ r.action = .shutdown) :
    r.related s ↔ s.Within r.current := by
  rcases h with h | h <;> simp [related, h, Shape.Within, and_assoc]

end Requirement

end FleetSizing
