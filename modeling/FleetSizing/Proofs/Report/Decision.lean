import FleetSizing.Proofs.Report.WellFormed
import FleetSizing.Proofs.Schedule.Families
import FleetSizing.Proofs.Stats.Bounds

/-! Which samples are valid, and what the engine makes of them. What it decides for a resource is well
formed, and so is the priced report. -/
namespace FleetSizing

variable {α : Type}

/-- A resize or a split, with shapes to choose from. -/
structure Decision.Proper (d : Decision α) : Prop where
  action : d.action = .scaleUp ∨ d.action = .scaleDown ∨ d.action = .changeShape ∨ d.action = .split
  offers_ne_nil : d.offers ≠ []

/-- A schedule and a resize go together in any combination. -/
theorem Decision.agree_proposed (custom : Bool) {decision : Option (Decision α)}
    (hd : ∀ d, decision = some d → d.Proper) :
    Action.Agree ((if custom then [Action.schedule] else []) ++ (decision.map (·.action)).toList) := by
  cases decision with
  | none =>
    simp only [Option.map_none]
    cases custom <;> decide
  | some d =>
    rcases (hd d rfl).action with h | h | h | h <;> simp only [Option.map_some, h] <;>
      cases custom <;> decide

theorem Decision.proposed_consistent {custom : Bool} {decision : Option (Decision α)} {ws : List (Window α)}
    (hd : ∀ d, decision = some d → d.Proper) (hs : custom ↔ ¬ ws.all Window.isAlwaysRun)
    (id : String) :
    ({ resource := id
       actions := (if custom then [Action.schedule] else []) ++ (decision.map (·.action)).toList
       schedule := some ws
       shapes := decision.map (·.offers) } : Report α).Consistent := by
  have hkind : ∀ d, decision = some d → d.action.offersShapes ∧ d.action ≠ .schedule := by
    intro d h
    rcases (hd d h).action with h | h | h | h <;> simp [h, Action.offersShapes]
  refine ⟨agree_proposed custom hd, ?_, ?_, by simp⟩
  · have hcustom : (Report.customSchedule? { resource := id, actions := [], schedule := some ws }).isSome ↔
        custom := by
      rw [hs]
      cases hall : ws.all Window.isAlwaysRun <;> simp [Report.customSchedule?, Option.filter, hall]
    refine Iff.trans ?_ hcustom.symm
    cases decision with
    | none => cases custom <;> simp
    | some d => cases custom <;> simp [(hkind d rfl).2.symm]
  · intro os hos
    obtain ⟨d, rfl, rfl⟩ := Option.map_eq_some_iff.mp hos
    exact ⟨(hd d rfl).offers_ne_nil, d.action, by simp, (hkind d rfl).1⟩

namespace Trend

theorem resizeAction?_cases {t : Trend α} {a : Action} (h : t.resizeAction? = some a) :
    a = .scaleUp ∨ a = .scaleDown ∨ a = .changeShape := by
  unfold resizeAction? at h
  simp only at h
  split at h
  · split at h
    · simp_all
    · split at h <;> simp_all
  · cases h

theorem actionOf?_cases {ts : List (Trend α)} {a : Action} (h : actionOf? ts = some a) :
    (a = .scaleUp ∨ a = .scaleDown ∨ a = .changeShape) ∨ (a = .split ∧ ts ≠ []) := by
  match ts, h with
  | [t], h => exact Or.inl (resizeAction?_cases h)
  | t :: u :: ts, h => exact Or.inr ⟨(Option.some.inj h).symm, by simp⟩

end Trend

namespace Schedule

/-- Seven weekdays in order are all weekdays. -/
theorem orderedDays_eq_all {days : List Weekday} (h : (Window.orderedDays days).length = 7) :
    Window.orderedDays days = Weekday.all :=
  List.filter_sublist.eq_of_length (by rw [show Weekday.all.length = 7 from rfl]; exact h)

/-- Days of a window, each once and in order. -/
def Ordered (w : Window α) : Prop := ∃ days, w.weekdays = Window.orderedDays days

theorem coversWeek_of_isAlwaysRun {ws : List (Window α)} {w : Window α} (hw : w ∈ ws)
    (hd : Ordered w) (h : w.isAlwaysRun) : coversWeek ws := by
  obtain ⟨days, hdays⟩ := hd
  simp only [Window.isAlwaysRun, Bool.and_eq_true, beq_iff_eq] at h
  have hall : w.weekdays = Weekday.all := by
    rw [hdays]
    exact orderedDays_eq_all (hdays ▸ h.1)
  simp only [coversWeek, List.all_eq_true, List.any_eq_true, List.mem_filter]
  intro d _
  exact ⟨w, ⟨hw, h.2⟩, by simp [hall, Weekday.mem_all]⟩

variable [Scalar α]

theorem ordered_of_mem_mergeAdjacent {tolerance : Nat} {ws : List (Window α)} {w : Window α}
    (h : w ∈ Window.mergeAdjacent tolerance ws) : Ordered w := by
  simp only [Window.mergeAdjacent, List.mem_map] at h
  obtain ⟨g, -, rfl⟩ := h
  exact ⟨g.window.weekdays, rfl⟩

/-- A custom schedule is reported as one, and no other is. -/
theorem isCustom_iff {ws : List (Window α)} (h : ∀ w ∈ ws, Ordered w) :
    (ofWindows ws).isCustom ↔ ¬ (ofWindows ws).reported.all Window.isAlwaysRun := by
  unfold ofWindows
  split
  · simp [isCustom, reported]
  · rename_i hne
    split
    · simp [isCustom, reported, Report.isAlwaysRun_alwaysRun]
    · rename_i hcovers
      obtain ⟨w, hw⟩ := List.exists_mem_of_ne_nil ws (by simpa using hne)
      have hrun : ¬ ws.all Window.isAlwaysRun := by
        intro hall
        exact hcovers (coversWeek_of_isAlwaysRun hw (h w hw) (List.all_eq_true.mp hall w hw))
      simpa [isCustom, reported] using hrun

theorem isIdle_ofWindows {α : Type} {ws : List (Window α)} : (ofWindows ws).isIdle ↔ ws = [] := by
  unfold ofWindows
  split
  · rename_i hempty
    simpa [isIdle] using hempty
  · rename_i hne
    have hne' : ws ≠ [] := by simpa using hne
    split <;> simp [isIdle, hne']

end Schedule

namespace Settings

variable {s : Settings α} {samples : List (Sample α)}

theorem isIdle_schedule_iff [Scalar α] : (s.schedule samples).isIdle ↔ s.dailyWindows samples = [] := by
  rw [schedule, Schedule.isIdle_ofWindows, Window.mergeAdjacent_eq_nil]

/-- Even gaps are the step, in minutes. -/
theorem stepMinutes_of_gaps {n : Nat} {gap : Int}
    (h : Sampling.gaps samples = List.replicate (n + 1) gap) :
    s.stepMinutes samples =
      if 60 ≤ gap then (gap / 60).toNat % pow2 32 else max s.recordStepMinutes 1 := by
  rw [stepMinutes, Sampling.stepMinutes, h, Stats.median?_replicate]

end Settings

namespace Savings

variable [Scalar α] {price : String → Option α}

theorem action_of_mem_resizeOptions {a : Action} {current : α} {offers : List (Offer α)}
    {o : Saving α} (h : o ∈ resizeOptions price a current offers) : o.action = a := by
  simp only [resizeOptions, List.mem_filterMap, Option.map_eq_some_iff] at h
  obtain ⟨-, -, -, -, rfl⟩ := h
  rfl

/-- The options of an action propose that action, those of a shutdown also to shrink. -/
theorem action_of_mem_ofAction {a : Action} {report : Report α} {current : α}
    {options : List (Saving α)} (h : ofAction price a report current = .ok options) {o : Saving α}
    (ho : o ∈ options) : o.action = a ∨ (o.action = .scaleDown ∧ a = .shutdown) := by
  cases a with
  | schedule =>
    simp only [ofAction] at h
    split at h
    · cases h
    · cases h
      simp only [List.mem_singleton] at ho
      exact Or.inl (by rw [ho]; rfl)
  | shutdown =>
    cases h
    rcases List.mem_cons.mp ho with rfl | ho
    · exact Or.inl rfl
    · exact Or.inr ⟨action_of_mem_resizeOptions ho, rfl⟩
  | scaleUp | scaleDown | changeShape =>
    cases h
    exact Or.inl (action_of_mem_resizeOptions ho)
  | split =>
    simp only [ofAction] at h
    cases hp : splitParts price report.offers with
    | error e => rw [hp] at h; cases h
    | ok parts =>
      rw [hp] at h
      simp only [bind, Except.bind] at h
      split at h
      · cases h
      · cases h
        simp only [List.mem_singleton] at ho
        exact Or.inl (by rw [ho]; rfl)
  | noAction | error =>
    cases h
    cases ho

theorem proposes_of_mem_estimate {report : Report α} {shape : String} {o : Saving α}
    (h : o ∈ estimate price report shape) : report.Proposes o.action := by
  simp only [estimate, List.mem_mergeSort, collected, List.mem_flatMap] at h
  obtain ⟨a, ha, ho⟩ := h
  split at ho
  · rename_i options hpriced
    unfold priced at hpriced
    split at hpriced
    · cases hpriced
    · rcases action_of_mem_ofAction hpriced ho with he | ⟨he, rfl⟩
      · exact Or.inl (he ▸ ha)
      · exact Or.inr ⟨he, ha⟩
  · cases ho

end Savings

namespace Engine

variable [Scalar α] {e : Engine α} {r : Resource} {current : Shape α}

theorem candidates_of_filter {q : Requirement α} {s : Shape α} {shapes : List (Shape α)}
    (hlist : ShapeCatalog.list e.shapes current.cloud = shapes)
    (hfilter : shapes.filter (Selection.eligible e.rules e.settings current q) = [s])
    (hmax : 0 < e.settings.maxRecommendedShapes) : e.candidates r current q = [s] := by
  have hranking : Selection.ranking e.rules e.settings (fun s => e.price? r s.name) current q shapes = [s] := by
    rw [Selection.ranking, hfilter, List.map_singleton, List.mergeSort_singleton]
    rfl
  rw [candidates, hlist, Selection.select, hranking]
  exact List.take_of_length_le hmax

theorem tryResize_eq_some {t : Trend α} {a : Action} {d : Decision α}
    (h : e.tryResize r current t a = some d) : d.action = a ∧ d.offers ≠ [] := by
  unfold tryResize at h
  simp only at h
  split at h
  · cases h
  · rename_i hne
    cases h
    exact ⟨rfl, by simpa using hne⟩

theorem resize_proper {t : Trend α} {a : Action} {d : Decision α}
    (ha : a = .scaleUp ∨ a = .scaleDown ∨ a = .changeShape) (h : e.resize r current t a = some d) :
    d.Proper := by
  have proper : ∀ {t b}, (b = .scaleUp ∨ b = .scaleDown ∨ b = .changeShape) →
      e.tryResize r current t b = some d → d.Proper := by
    intro t b hb ht
    obtain ⟨rfl, hne⟩ := tryResize_eq_some ht
    exact ⟨by tauto, hne⟩
  unfold resize at h
  cases ht : e.tryResize r current t a with
  | some d' =>
    rw [ht] at h
    cases h
    exact proper ha ht
  | none =>
    rw [ht] at h
    simp only [Option.orElse_none, Option.bind_eq_bind, Option.bind_eq_some_iff] at h
    obtain ⟨fallback, -, b, hb, hf⟩ := h
    exact proper (Trend.resizeAction?_cases hb) hf

theorem split_proper {ts : List (Trend α)} {d : Decision α} (hts : ts ≠ [])
    (h : e.split r current ts = some d) : d.Proper := by
  simp only [split, Option.map_eq_some_iff] at h
  obtain ⟨offers, hoffers, rfl⟩ := h
  refine ⟨by simp, ?_⟩
  obtain ⟨t, ts, rfl⟩ := List.exists_cons_of_ne_nil hts
  simp only [List.mapM_cons, Option.bind_eq_bind, Option.bind_eq_some_iff] at hoffers
  obtain ⟨o, -, os, -, hos⟩ := hoffers
  simp only [Option.pure_def, Option.some.injEq] at hos
  simp [← hos]

theorem resizeFor_proper {ts : List (Trend α)} {d : Decision α}
    (h : e.resizeFor r current ts = some d) : d.Proper := by
  unfold resizeFor at h
  split at h
  · rename_i ha
    rcases Trend.actionOf?_cases ha with hb | ⟨-, hne⟩
    · simp at hb
    · exact split_proper hne h
  · rename_i a hns ha
    obtain ⟨t, -, ht⟩ := Option.bind_eq_some_iff.mp h
    rcases Trend.actionOf?_cases ha with hb | ⟨rfl, -⟩
    · exact resize_proper hb ht
    · exact (hns rfl).elim
  · cases h

theorem shrunken_ne_nil {samples : List (Sample α)} {os : List (Offer α)}
    (h : e.shrunken r current samples = some os) : os ≠ [] := by
  unfold shrunken at h
  simp only at h
  split at h
  · cases h
  · rename_i hne
    cases h
    simpa using hne

theorem decide_of_isIdle {samples : List (Sample α)} (h : (e.settings.schedule samples).isIdle) :
    e.decide r samples current =
      ({ resource := r.id, actions := [.shutdown], shapes := e.shrunken r current samples }, 0) := by
  unfold decide
  simp only
  rw [if_pos h]

/-- Only an idle resource is shut down, and nothing else is proposed for it. -/
theorem decide_shutdown_iff {samples : List (Sample α)} :
    (e.decide r samples current).1.actions = [.shutdown] ↔
      (e.settings.schedule samples).isIdle := by
  constructor
  · intro h
    by_contra hidle
    have hmem : Action.shutdown ∈ (e.decide r samples current).1.actions := by simp [h]
    unfold decide at hmem
    simp only at hmem
    rw [if_neg hidle] at hmem
    rcases Report.mem_settled_actions hmem with hmem | hmem
    · rcases List.mem_append.mp hmem with hschedule | hresize
      · split at hschedule <;> simp at hschedule
      · simp only [Option.mem_toList, Option.map_eq_some_iff] at hresize
        obtain ⟨d, hd, haction⟩ := hresize
        rcases (resizeFor_proper hd).action with h | h | h | h <;> rw [h] at haction <;> cases haction
    · cases hmem
  · intro h
    rw [decide_of_isIdle h]

theorem decide_wellFormed (samples : List (Sample α)) :
    (e.decide r samples current).1.WellFormed := by
  unfold decide
  simp only
  split
  · refine ⟨⟨show Action.Agree [.shutdown] by decide, by simp [Report.customSchedule?], ?_, by simp⟩,
      by simp⟩
    intro os hos
    exact ⟨shrunken_ne_nil hos, .shutdown, by simp, rfl⟩
  · apply Report.Consistent.settled
    exact Decision.proposed_consistent (fun d hd => resizeFor_proper hd)
      (Schedule.isCustom_iff fun w hw => Schedule.ordered_of_mem_mergeAdjacent hw) r.id

theorem price_wellFormed {report : Report α} (h : report.WellFormed) :
    (e.price r current report).WellFormed := by
  refine ⟨⟨h.agree, h.schedule_iff, h.shapes, ?_⟩, h.actions_ne_nil⟩
  intro os hos o ho
  simp only [price] at hos
  split at hos
  · cases hos
  · cases hos
    exact Savings.proposes_of_mem_estimate ho

/-- Valid samples have all required columns, span enough days and end in a shape of the catalog. -/
theorem validate_eq_ok_iff {b : Batch α} {samples : List (Sample α)} :
    e.validate b = .ok (samples, current) ↔
      b.missing e.settings.requiredColumns = [] ∧ byTime b.samples = samples ∧
      ∃ first last, samples.head? = some first ∧ samples.getLast? = some last ∧
        ¬ span (e.settings.stepMinutes samples) first last <
          (e.settings.minAllowedDays : Int) * 86400 ∧
        e.shapes.get? last.shape = some current := by
  constructor
  · intro h
    unfold validate at h
    simp only at h
    split at h
    · cases h
    · rename_i hmissing
      split at h
      · rename_i first last hfirst hlast
        split at h
        · cases h
        · rename_i hspan
          split at h
          · rename_i hget
            cases h
            exact ⟨by simpa using hmissing, rfl, first, last, hfirst, hlast, hspan, hget⟩
          · cases h
      · cases h
  · rintro ⟨hmissing, rfl, first, last, hfirst, hlast, hspan, hget⟩
    simp [validate, hmissing, hfirst, hlast, hspan, hget]

/-- What is reported is decided on valid samples, then priced, then stripped of what is postponed; its
entries are written. -/
theorem process_eq_ok {p : Option Postponement} {b : Batch α} {c : Completed α}
    (h : e.process r p b = .ok c) : ∃ samples current, e.validate b = .ok (samples, current) ∧
      let priced := e.price r current (e.decide r samples current).1
      (c.report = p.elim priced fun p => priced.withoutPostponed p) ∧
        c.history = e.entries r p current c.report := by
  unfold process at h
  split at h
  · cases h
  · rename_i samples current hv
    cases h
    refine ⟨samples, current, hv, ?_, rfl⟩
    cases p <;> rfl

/-- Whatever is postponed, a completed resource has a well-formed report. -/
theorem process_wellFormed {p : Option Postponement} {b : Batch α} {c : Completed α}
    (h : e.process r p b = .ok c) : c.report.WellFormed := by
  obtain ⟨samples, current, -, hreport, -⟩ := process_eq_ok h
  rw [hreport]
  cases p with
  | none => exact price_wellFormed (decide_wellFormed samples)
  | some p => exact Report.withoutPostponed_wellFormed p (price_wellFormed (decide_wellFormed samples))

/-- A resource without a postponement ends with the priced decision on its samples. -/
theorem run_of_valid {read : String → Except EngineError (Batch α)} {b : Batch α}
    {samples : List (Sample α)} (hp : e.postponement? r = .ok none) (hr : read r.id = .ok b)
    (hv : e.validate b = .ok (samples, current)) :
    let report := e.price r current (e.decide r samples current).1
    e.run read r =
      .completed ⟨report, e.entries r none current report, (e.decide r samples current).2⟩ := by
  simp only [run, runM, hp, hr, pure_bind, process, hv]
  rfl

/-- If only some kinds are postponed, what is of them is taken out of that decision. -/
theorem run_of_partial {read : String → Except EngineError (Batch α)} {b : Batch α}
    {samples : List (Sample α)} {p : Postponement} (hp : e.postponement? r = .ok (some p))
    (hpartial : ¬ p.coversAll) (hr : read r.id = .ok b) (hv : e.validate b = .ok (samples, current)) :
    let report := (e.price r current (e.decide r samples current).1).withoutPostponed p
    e.run read r =
      .completed ⟨report, e.entries r (some p) current report, (e.decide r samples current).2⟩ := by
  have hfilter : (some p).filter (·.coversAll) = none :=
    Option.filter_eq_none_iff.mpr (by simpa using hpartial)
  simp only [run, runM, hp, hfilter, hr, pure_bind, process, hv]
  rfl

/-- A resource completes only on samples that could be read, and not if everything is postponed. -/
theorem run_eq_completed {read : String → Except EngineError (Batch α)} {c : Completed α}
    (h : e.run read r = .completed c) : ∃ p b, e.postponement? r = .ok p ∧
      p.filter (·.coversAll) = none ∧ read r.id = .ok b ∧ e.process r p b = .ok c := by
  simp only [run, runM, pure_bind] at h
  split at h
  · cases h
  · rename_i p hp
    split at h
    · cases h
    · rename_i hpartial
      split at h
      · cases h
      · rename_i b hb
        split at h
        · rename_i hc
          cases h
          exact ⟨p, b, hp, hpartial, hb, hc⟩
        · cases h

theorem run_wellFormed {read : String → Except EngineError (Batch α)} {c : Completed α}
    (h : e.run read r = .completed c) : c.report.WellFormed := by
  obtain ⟨p, b, -, -, -, hc⟩ := run_eq_completed h
  exact process_wellFormed hc

end Engine

end FleetSizing
