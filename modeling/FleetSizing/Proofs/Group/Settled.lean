import FleetSizing.Proofs.Group.Passes
import FleetSizing.Proofs.History.Sync
import FleetSizing.Proofs.Scalar.Share

/-! Reconciling once is enough, and the order of the members does not matter. What the passes decide by
is the same for every order, and what they leave clashes with nothing that they left. -/
namespace FleetSizing

namespace Group

variable {α : Type} {group group' : List (Report α)} {r : Report α}

section

variable [Scalar α]

theorem has_agree {a : Action} (ha : a ≠ .noAction) (h : (agree group r).has a) : r.has a := by
  unfold agree resized at h
  split at h <;> split at h <;>
    simp_all [Report.has_withoutSchedule, Report.has_withoutResize]

theorem proposedSchedule?_agree : (agree group r).proposedSchedule? =
    r.proposedSchedule?.filter (!tooShort (runtimeFloor? group) ·) := by
  rw [agree, scheduleClashes_resized, scheduleClashes_eq]
  split
  · rename_i hshort
    rw [Report.proposedSchedule?_withoutSchedule]
    cases hproposed : r.proposedSchedule? with
    | none => rfl
    | some ws =>
      rw [hproposed, Option.any_some] at hshort
      simp [Option.filter, hshort]
  · rename_i hlong
    rw [proposedSchedule?_resized]
    cases hproposed : r.proposedSchedule? with
    | none => rfl
    | some ws =>
      rw [hproposed, Option.any_some] at hlong
      simp [Option.filter, hlong]

/-- The schedules that are left are those that are long enough. -/
theorem proposals_agreed : proposals (group.map (agree group)) =
    (proposals group).filter (!tooShort (runtimeFloor? group) ·) := by
  rw [proposals, proposals, List.filterMap_map, List.filter_filterMap]
  exact congrArg (List.filterMap · group) (funext fun _ => proposedSchedule?_agree)

end

section

variable [Scalar α] [PartialEquivBEq α] [Scalar.BoundsShare α]

/-- A schedule that runs longest is never below the floor. -/
theorem not_tooShort_longest {ws : List (Window α)} (h : runtime ws = longest group) :
    tooShort (runtimeFloor? group) ws = false := by
  rw [runtimeFloor?_eq]
  split
  · rfl
  · simp [tooShort, h, Scalar.BoundsShare.not_lt_share]

theorem longest_agreed : longest (group.map (agree group)) = longest group := by
  apply Nat.le_antisymm
  · rcases exists_longest (group.map (agree group)) with hnone | ⟨ws, hws, hle⟩
    · omega
    · rw [proposals_agreed] at hws
      exact hle.trans (runtime_le_longest (List.mem_filter.mp hws).1)
  · rcases exists_longest group with hnone | ⟨ws, hws, hle⟩
    · omega
    · have hlongest : runtime ws = longest group := Nat.le_antisymm (runtime_le_longest hws) hle
      refine hle.trans (runtime_le_longest ?_)
      rw [proposals_agreed, List.mem_filter, not_tooShort_longest hlongest]
      exact ⟨hws, rfl⟩

/-- The floor stays, or falls away with the difference that it was for. -/
theorem tooShort_agreed {ws : List (Window α)} (h : tooShort (runtimeFloor? group) ws = false) :
    tooShort (runtimeFloor? (group.map (agree group))) ws = false := by
  rw [runtimeFloor?_eq, longest_agreed]
  split
  · rfl
  · rename_i hdiffer
    rw [runtimeFloor?_eq, if_neg] at h
    · exact h
    · intro halike
      rw [proposals_agreed] at hdiffer
      exact hdiffer (halike.sublist List.filter_sublist)

theorem scheduleClashes_agreed :
    scheduleClashes (runtimeFloor? (group.map (agree group))) (agree group r) = false := by
  rw [scheduleClashes_eq, proposedSchedule?_agree]
  cases hproposed : r.proposedSchedule? with
  | none => rfl
  | some ws =>
    cases hshort : tooShort (runtimeFloor? group) ws with
    | true => simp [Option.filter, hshort]
    | false => simp [Option.filter, hshort, tooShort_agreed hshort]

omit [PartialEquivBEq α] [Scalar.BoundsShare α] in
theorem resizeClashes_agreed (hr : r ∈ group) :
    resizeClashes ((group.map (agree group)).any (·.has .scaleUp)) (agree group r) = false := by
  rw [resizeClashes_eq]
  split
  · rename_i hgrows
    -- Whoever grows afterwards has grown before.
    obtain ⟨_, ht, hup⟩ := List.any_eq_true.mp hgrows
    obtain ⟨t, hmem, rfl⟩ := List.mem_map.mp ht
    exact shrinks_agree (List.any_eq_true.mpr ⟨t, hmem, has_agree (by decide) hup⟩)
  · rename_i hnone
    rw [← Bool.not_eq_true]
    exact fun hup => hnone (List.any_eq_true.mpr ⟨_, List.mem_map_of_mem hr, hup⟩)

/-- Members that went through the passes go through them unchanged. -/
theorem agree_agreed (hr : r ∈ group) : agree (group.map (agree group)) (agree group r) = agree group r := by
  rw [agree_eq, resizeClashes_agreed hr, scheduleClashes_agreed, Report.neutralized_neither]

theorem counts_agreed : (passes (group.map (agree group))).2 = ⟨0, 0⟩ := by
  rw [counts_passes]
  congr 1
  · rw [List.countP_eq_zero]
    intro s hs
    obtain ⟨r, hr, rfl⟩ := List.mem_map.mp hs
    rw [resizeClashes_agreed hr]
    decide
  · rw [List.countP_eq_zero]
    intro s hs
    obtain ⟨r, -, rfl⟩ := List.mem_map.mp hs
    rw [scheduleClashes_agreed]
    decide

end

section

variable (hperm : group'.Perm group)

include hperm

theorem proposals_perm : (proposals group').Perm (proposals group) := hperm.filterMap _

theorem longest_perm : longest group' = longest group :=
  ((proposals_perm hperm).map runtime).foldl_eq 0

variable [Scalar α] [PartialEquivBEq α]

theorem runtimeFloor?_perm : runtimeFloor? group' = runtimeFloor? group := by
  rw [runtimeFloor?_eq, runtimeFloor?_eq, longest_perm hperm]
  have hpair := (proposals_perm hperm).pairwise_iff (R := (· == ·)) BEq.symm
  simp only [hpair]

theorem agree_perm : agree group' = agree group := by
  funext r
  rw [agree_eq, agree_eq, runtimeFloor?_perm hperm, hperm.any_eq]

theorem counts_perm : (passes group').2 = (passes group).2 := by
  rw [counts_passes, counts_passes, runtimeFloor?_perm hperm, hperm.any_eq, hperm.countP_eq,
    hperm.countP_eq]

end

section

variable [Scalar α] {day : Day} {history : History α} {reports : List (Report α)}

/-- The members that take part, as the passes leave them. -/
def agreed (reports : List (Report α)) : List (Report α) :=
  let active := reports.filter (·.status == .success)
  active.map (agree active)

theorem history_reconcile : (reconcile day history reports).2.1 =
    (agreed reports).foldl (syncHistory day) history :=
  congrArg (List.foldl (syncHistory day) history) passes_eq

theorem counts_reconcile : (reconcile day history reports).2.2 =
    (passes (reports.filter (·.status == .success))).2 := rfl

theorem nodup_agreed (hnodup : (reports.map (·.resource)).Nodup) :
    ((agreed reports).map (·.resource)).Nodup := by
  have hsame : (agreed reports).map (·.resource) =
      (reports.filter (·.status == .success)).map (·.resource) := by
    rw [agreed, List.map_map]
    exact List.map_congr_left fun _ _ => resource_agree
  rw [hsame]
  exact hnodup.sublist (List.filter_sublist.map _)

/-- What a reconciliation puts in the place of a report. -/
def replacement (reports : List (Report α)) (r : Report α) : Report α :=
  if r.status = .success then agree (reports.filter (·.status == .success)) r else r

theorem resource_replacement : (replacement reports r).resource = r.resource := by
  unfold replacement
  split
  · exact resource_agree
  · rfl

theorem status_replacement : (replacement reports r).status = r.status := by
  unfold replacement
  split
  · exact status_agree
  · rfl

theorem reports_reconcile (hnodup : (reports.map (·.resource)).Nodup) :
    (reconcile day history reports).1 = reports.map (replacement reports) := reconcile_of_nodup hnodup

theorem active_reconcile (hnodup : (reports.map (·.resource)).Nodup) :
    (reconcile day history reports).1.filter (·.status == .success) = agreed reports := by
  rw [reports_reconcile hnodup, List.filter_map, agreed]
  simp only [Function.comp_def, status_replacement]
  refine List.map_congr_left fun r hr => if_pos ?_
  simpa using (List.mem_filter.mp hr).2

theorem resources_reconcile (hnodup : (reports.map (·.resource)).Nodup) :
    (reconcile day history reports).1.map (·.resource) = reports.map (·.resource) := by
  rw [reports_reconcile hnodup, List.map_map]
  exact List.map_congr_left fun _ _ => resource_replacement

variable [PartialEquivBEq α] [Scalar.BoundsShare α]

theorem reconcile_again (hnodup : (reports.map (·.resource)).Nodup) :
    let reconciled := reconcile day history reports
    reconcile day reconciled.2.1 reconciled.1 = (reconciled.1, reconciled.2.1, ⟨0, 0⟩) := by
  intro reconciled
  have hactive : reconciled.1.filter (·.status == .success) = agreed reports := active_reconcile hnodup
  have hstays : ∀ s ∈ agreed reports, agree (agreed reports) s = s := by
    intro s hs
    obtain ⟨r, hr, rfl⟩ := List.mem_map.mp hs
    exact agree_agreed hr
  have hnodup' : (reconciled.1.map (·.resource)).Nodup := by
    rw [resources_reconcile hnodup]
    exact hnodup
  refine Prod.ext ?_ (Prod.ext ?_ ?_)
  · rw [reports_reconcile hnodup']
    refine (List.map_congr_left fun s hs => ?_).trans (List.map_id _)
    rw [replacement, hactive]
    split
    · rename_i hsuccess
      exact hstays s (hactive ▸ List.mem_filter.mpr ⟨hs, by simp [hsuccess]⟩)
    · rfl
  · rw [history_reconcile, agreed, hactive, List.map_congr_left hstays, List.map_id']
    rw [show reconciled.2.1 = _ from history_reconcile]
    exact foldl_syncHistory_twice (nodup_agreed hnodup)
  · rw [counts_reconcile, hactive]
    exact counts_agreed

omit [Scalar.BoundsShare α] in
theorem reconcile_perm {reports' : List (Report α)} (hnodup : (reports.map (·.resource)).Nodup)
    (hperm : reports'.Perm reports) :
    (reconcile day history reports').1 = reports'.map (replacement reports) ∧
      (reconcile day history reports').2 = (reconcile day history reports).2 := by
  have hnodup' : (reports'.map (·.resource)).Nodup := (hperm.map _).nodup_iff.mpr hnodup
  have hactive := hperm.filter (·.status == .success)
  refine ⟨?_, Prod.ext ?_ ?_⟩
  · rw [reports_reconcile hnodup']
    unfold replacement
    rw [agree_perm hactive]
  · have hagreed : (agreed reports').Perm (agreed reports) := by
      rw [agreed, agree_perm hactive]
      exact hactive.map _
    rw [history_reconcile, history_reconcile]
    exact foldl_syncHistory_perm (nodup_agreed hnodup) hagreed
  · exact counts_perm hactive

/-- Reconciling is done once for all, and in the same way whatever order the members are listed in. -/
theorem reconcile_settles (day : Day) (history : History α) {reports : List (Report α)}
    (hnodup : (reports.map (·.resource)).Nodup) :
    let reconciled := reconcile day history reports
    reconcile day reconciled.2.1 reconciled.1 = (reconciled.1, reconciled.2.1, ⟨0, 0⟩) ∧
    ∀ reports' : List (Report α), reports'.Perm reports →
      let reordered := reconcile day history reports'
      reordered.1.Perm reconciled.1 ∧
      (∀ i j : Nat, reports'[i]? = reports[j]? → reordered.1[i]? = reconciled.1[j]?) ∧
      reordered.2 = reconciled.2 := by
  intro reconciled
  refine ⟨reconcile_again hnodup, fun reports' hperm => ?_⟩
  intro reordered
  obtain ⟨hreordered, hrest⟩ : reordered.1 = _ ∧ reordered.2 = reconciled.2 :=
    reconcile_perm hnodup hperm
  have hreconciled : reconciled.1 = reports.map (replacement reports) := reports_reconcile hnodup
  refine ⟨?_, ?_, hrest⟩
  · rw [hreordered, hreconciled]
    exact hperm.map _
  · intro i j hplace
    rw [hreordered, hreconciled, List.getElem?_map, List.getElem?_map, hplace]

end

theorem reconcile_settles_trio :
    let trio : List (Report Float) := [Trio.growing, Trio.short, Trio.long]
    let reconciled := reconcile default .empty trio
    (trio.map (·.resource)).Nodup ∧ reconciled.2.2 = ⟨1, 1⟩ ∧
      reconcile default reconciled.2.1 reconciled.1 = (reconciled.1, reconciled.2.1, ⟨0, 0⟩) ∧
      (reconcile default .empty trio.reverse).1[0]? = reconciled.1[2]? := by
  intro trio reconciled
  have hnodup : (trio.map (·.resource)).Nodup := by decide
  obtain ⟨hagain, hreordered⟩ := reconcile_settles default .empty hnodup
  exact ⟨hnodup, by decide, hagain, (hreordered _ trio.reverse_perm).2.1 0 2 rfl⟩

end Group

end FleetSizing
