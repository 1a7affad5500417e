import FleetSizing.Proofs.History.Writes

/-! The entries that a task writes: one for each kind that its report proposes, then those of the postponed
kinds. -/
namespace FleetSizing

variable {α : Type}

/-- Of actions of different kinds, one at most is of a given kind. -/
theorem Action.filter_kind {as : List Action} (h : (as.filterMap kind?).Nodup) (kind : Kind) :
    as.filter (·.kind? == some kind) = (as.find? (·.kind? == some kind)).toList := by
  induction as with
  | nil => rfl
  | cons a as ih =>
    cases hkind : a.kind? with
    | none =>
      rw [List.filterMap_cons_none hkind] at h
      simp [hkind, ih h]
    | some kind' =>
      rw [List.filterMap_cons_some hkind, List.nodup_cons] at h
      by_cases heq : kind' = kind
      · subst heq
        have hrest : as.filter (·.kind? == some kind') = [] := by
          rw [List.filter_eq_nil_iff]
          intro b hb hsame
          exact h.1 (List.mem_filterMap.mpr ⟨b, hb, by simpa using hsame⟩)
        simp [hkind, hrest]
      · simp [hkind, heq, ih h.2]

variable [Scalar α]

namespace Report

variable {r : Report α} {kind : Kind} {a : Action}

omit [Scalar α] in
theorem kind_of_actionOf? (h : r.actionOf? kind = some a) : a.kind? = some kind := by
  simpa using List.find?_some h

theorem exists_ofAction? (h : r.actionOf? kind = some a) (c : EntryContext α) :
    ∃ x, Entry.ofAction? r c a = some x ∧ x.action = a ∧ x.status = .recommended := by
  unfold Entry.ofAction?
  rw [kind_of_actionOf? h]
  exact ⟨_, rfl, rfl, rfl⟩

/-- A report with actions of different kinds is recorded by one entry at most for each kind. -/
theorem filter_entries (h : (r.actions.filterMap Action.kind?).Nodup) (c : EntryContext α) (kind : Kind) :
    (r.entries c).filter (·.key = ⟨r.resource, kind, c.day⟩) =
      ((r.actionOf? kind).bind (Entry.ofAction? r c)).toList := by
  have hsame : ∀ a, (Entry.ofAction? r c a).filter (·.key = ⟨r.resource, kind, c.day⟩) =
      if a.kind? == some kind then Entry.ofAction? r c a else none := by
    intro a
    cases hkind : a.kind? with
    | none => simp [Entry.ofAction?, hkind]
    | some kind' =>
      by_cases heq : kind' = kind
      · simp [Entry.ofAction?, hkind, heq, Option.filter, Entry.key]
      · simp [Entry.ofAction?, hkind, heq, Option.filter, Entry.key]
  have hkinds : r.actions.filter (·.kind? == some kind) = (r.actionOf? kind).toList :=
    Action.filter_kind h kind
  rw [entries, List.filter_filterMap]
  simp only [hsame]
  rw [← List.filterMap_filter, hkinds]
  cases r.actionOf? kind <;> rfl

theorem status_withoutPostponed (p : Postponement) : (r.withoutPostponed p).status = r.status := by
  unfold withoutPostponed
  simp only
  split
  · rfl
  · rw [status_settled]

end Report

namespace Engine

variable {e : Engine α} {r : Resource} {current : Shape α} {c : Completed α} {kind : Kind} {a : Action}
  {read : String → Except EngineError (Batch α)}

/-- The tags of a resource postpone a kind. -/
def Postpones (e : Engine α) (r : Resource) (kind : Kind) : Prop :=
  ∃ p, e.postponement? r = .ok (some p) ∧ p.covers kind

theorem status_decide (samples : List (Sample α)) :
    (e.decide r samples current).1.status = .success := by
  unfold decide
  simp only
  split
  · rfl
  · rw [Report.status_settled]

theorem status_process {p : Option Postponement} {b : Batch α} (h : e.process r p b = .ok c) :
    c.report.status = .success := by
  obtain ⟨samples, current, -, hreport, -⟩ := process_eq_ok h
  have hpriced : (e.price r current (e.decide r samples current).1).status = .success :=
    status_decide samples
  rw [hreport]
  cases p with
  | none => exact hpriced
  | some p => exact (Report.status_withoutPostponed p).trans hpriced

/-- The entries that a task writes for what is postponed. -/
def postponements (e : Engine α) (r : Resource) (p : Option Postponement) (current : Shape α)
    (resource : String) : List (Entry α) :=
  p.elim [] fun q => q.kinds.map fun k =>
    { Entry.postponedFor resource k e.day (some current.name) q.deadline with
      currentMonthlyPrice := (e.price? r current.name).map Scalar.round2 }

variable {p : Option Postponement} {report : Report α} {resource : String} {x : Entry α}

theorem mem_postponements (h : x ∈ e.postponements r p current resource) :
    x.status = .postponed ∧ ∃ q, p = some q ∧ q.covers x.kind := by
  cases p with
  | none => cases h
  | some q =>
    obtain ⟨k, hk, rfl⟩ := List.mem_map.mp h
    exact ⟨rfl, q, rfl, List.contains_iff_mem.mpr hk⟩

theorem exists_mem_postponements {q : Postponement} (h : q.covers kind) :
    ∃ x ∈ e.postponements r (some q) current resource, x.key = ⟨resource, kind, e.day⟩ :=
  ⟨_, List.mem_map_of_mem (List.contains_iff_mem.mp h), rfl⟩

/-- What a task wrote last for a kind: that it is postponed, if it is, and else what is proposed of it. -/
theorem getLast?_filter_entries (h : Action.Agree report.actions) (kind : Kind) :
    let last := ((e.entries r p current report).filter
      (·.key = ⟨report.resource, kind, e.day⟩)).getLast?
    ((∃ q, p = some q ∧ q.covers kind) → ∃ x, last = some x ∧ x.status = .postponed) ∧
    ((¬ ∃ q, p = some q ∧ q.covers kind) → ∃ context,
      last = (report.actionOf? kind).bind (Entry.ofAction? report context)) := by
  intro last
  let context : EntryContext α := ⟨e.day, current.name, (e.price? r current.name).map Scalar.round2⟩
  generalize hothers : (e.postponements r p current report.resource).filter
    (·.key = ⟨report.resource, kind, e.day⟩) = others
  have hlast : last = others.getLast?.or
      ((report.actionOf? kind).bind (Entry.ofAction? report context)) := by
    have hentries : e.entries r p current report =
        report.entries context ++ e.postponements r p current report.resource := by
      cases p <;> rfl
    simp only [last]
    rw [hentries, List.filter_append, hothers, Report.filter_entries h.2.1 context kind, List.getLast?_append]
    cases (report.actionOf? kind).bind (Entry.ofAction? report context) <;> rfl
  constructor
  · rintro ⟨q, rfl, hcovers⟩
    have hposts : ∃ y ∈ e.postponements r (some q) current report.resource,
        y.key = ⟨report.resource, kind, e.day⟩ := exists_mem_postponements hcovers
    obtain ⟨y, hy, hkey⟩ := hposts
    have hne : others ≠ [] := by
      rw [← hothers]
      exact List.ne_nil_of_mem (List.mem_filter.mpr ⟨hy, decide_eq_true hkey⟩)
    obtain ⟨x, hx⟩ : ∃ x, others.getLast? = some x := ⟨_, List.getLast?_eq_some_getLast hne⟩
    have hmem : x ∈ others := List.mem_of_getLast? hx
    rw [← hothers] at hmem
    exact ⟨x, by rw [hlast, hx]; rfl, (mem_postponements (List.mem_of_mem_filter hmem)).1⟩
  · intro hfree
    have hnone : others = [] := by
      rw [← hothers, List.filter_eq_nil_iff]
      intro y hy hkey
      have hkind : y.kind = kind := congrArg EntryKey.kind (of_decide_eq_true hkey)
      exact hfree (hkind ▸ (mem_postponements hy).2)
    exact ⟨context, by rw [hlast, hnone]; rfl⟩

theorem getLast?_written (h : e.run read r = .completed c) (kind : Kind) :
    let last := (c.history.filter (·.key = ⟨r.id, kind, e.day⟩)).getLast?
    (e.Postpones r kind → ∃ x, last = some x ∧ x.status = .postponed) ∧
    (¬ e.Postpones r kind →
      (∀ a, c.report.actionOf? kind = some a →
        ∃ x, last = some x ∧ x.action = a ∧ x.status = .recommended) ∧
      (c.report.actionOf? kind = none → last = none)) := by
  intro last
  obtain ⟨p, b, hp, -, -, hc⟩ := run_eq_completed h
  obtain ⟨samples, current, -, -, hhistory⟩ := process_eq_ok hc
  have hpostpones : e.Postpones r kind ↔ ∃ q, p = some q ∧ q.covers kind := by
    rw [Postpones, hp]
    simp
  have hlast : last = ((e.entries r p current c.report).filter
      (·.key = ⟨c.report.resource, kind, e.day⟩)).getLast? := by
    simp only [last]
    rw [hhistory, resource_process hc]
  obtain ⟨hpostponed, hproposed⟩ := getLast?_filter_entries (e := e) (r := r) (p := p)
    (process_wellFormed hc).agree kind
  rw [hpostpones, hlast]
  refine ⟨hpostponed, fun hfree => ?_⟩
  obtain ⟨context, hwritten⟩ := hproposed hfree
  rw [hwritten]
  constructor
  · intro a ha
    rw [ha, Option.bind_some]
    exact Report.exists_ofAction? ha context
  · intro hnone
    rw [hnone, Option.bind_none]

end Engine

end FleetSizing
