import FleetSizing.Proofs.Report.Decision

/-! What is postponed is not proposed, with one exception. Where none of the actions is postponed the whole
report is left alone, so that a shutdown keeps its options to shrink even while resizes are postponed. -/
namespace FleetSizing

variable {α : Type} [Scalar α]

namespace Report

variable {p : Postponement} {r : Report α}

omit [Scalar α] in
theorem removed_isEmpty_iff :
    (r.actions.filter p.coversAction).isEmpty ↔ ∀ a ∈ r.actions, ¬ p.coversAction a := by
  rw [List.isEmpty_iff, List.filter_eq_nil_iff]

theorem withoutPostponed_of_not_covered (h : ∀ a ∈ r.actions, ¬ p.coversAction a) :
    r.withoutPostponed p = r := by
  unfold withoutPostponed
  simp only
  rw [if_pos (removed_isEmpty_iff.mpr h)]

theorem not_covered_of_mem_withoutPostponed {a : Action} (h : a ∈ (r.withoutPostponed p).actions) :
    ¬ p.coversAction a := by
  unfold withoutPostponed at h
  simp only at h
  split at h
  · rename_i hempty
    exact removed_isEmpty_iff.mp hempty a h
  · rcases mem_settled_actions h with hkept | rfl
    · simpa using (List.mem_filter.mp hkept).2
    · simp [Postponement.coversAction, Action.kind?]

end Report

namespace Savings

variable {price : String → Option α}

/-- A shutdown is priced together with every priced shape the resource could shrink to. -/
theorem scaleDown_mem_estimate {report : Report α} {shape : String} {current cost : α} {o : Offer α}
    (hshutdown : .shutdown ∈ report.actions) (hcurrent : price shape = some current)
    (ho : o ∈ report.offers) (hcost : price o.shape.name = some cost) :
    option .scaleDown current cost (some (.shape o.shape.name)) ∈ estimate price report shape := by
  have hoffered : option .scaleDown current cost (some (.shape o.shape.name)) ∈
      resizeOptions price .scaleDown current report.offers := by
    simp only [resizeOptions, List.mem_filterMap]
    exact ⟨o, ho, by rw [hcost]; rfl⟩
  simp only [estimate, List.mem_mergeSort, collected, List.mem_flatMap]
  refine ⟨.shutdown, hshutdown, ?_⟩
  simp only [priced, hcurrent, ofAction]
  exact List.mem_cons_of_mem _ hoffered

end Savings

namespace Engine

variable {e : Engine α} {r : Resource} {current : Shape α}

theorem exists_savings_price {report : Report α} {o : Saving α}
    (h : o ∈ Savings.estimate (e.price? r) report current.name) :
    ∃ os, (e.price r current report).savings = some os ∧ o ∈ os := by
  have hne : (Savings.estimate (e.price? r) report current.name).isEmpty = false := by
    rw [List.isEmpty_eq_false_iff]
    exact List.ne_nil_of_mem h
  exact ⟨_, by simp [price, hne], h⟩

/-- A completed resource proposes no action of a postponed kind. The options of a postponed kind that
remain are those to shrink, under a shutdown. -/
theorem run_proposes_nothing_postponed {read : String → Except EngineError (Batch α)}
    {p : Postponement} {c : Completed α} (hp : e.postponement? r = .ok (some p))
    (h : e.run read r = .completed c) :
    (∀ a ∈ c.report.actions, ¬ p.coversAction a) ∧
      ∀ os, c.report.savings = some os → ∀ o ∈ os, p.coversAction o.action →
        o.action = .scaleDown ∧ .shutdown ∈ c.report.actions := by
  obtain ⟨p', b, hp', -, -, hprocess⟩ := run_eq_completed h
  obtain rfl : some p = p' := by
    rw [hp] at hp'
    exact Except.ok.inj hp'
  obtain ⟨samples, current, -, hreport, -⟩ := process_eq_ok hprocess
  have hactions : ∀ a ∈ c.report.actions, ¬ p.coversAction a := by
    intro a ha
    rw [hreport] at ha
    exact Report.not_covered_of_mem_withoutPostponed ha
  refine ⟨hactions, ?_⟩
  intro os hos o ho hcovered
  rcases (run_wellFormed h).savings os hos o ho with hlisted | hshrinks
  · exact (hactions o.action hlisted hcovered).elim
  · exact hshrinks

/-- A shutdown that is not postponed keeps the option to shrink to any priced shape. -/
theorem scaleDown_kept {samples : List (Sample α)} {p : Postponement} {b : Batch α}
    {offers : List (Offer α)} {o : Offer α} {now cost : α}
    (hv : e.validate b = .ok (samples, current)) (hidle : (e.settings.schedule samples).isIdle)
    (hp : ¬ p.covers .shutdown) (hoffers : e.shrunken r current samples = some offers)
    (ho : o ∈ offers) (hnow : e.price? r current.name = some now)
    (hcost : e.price? r o.shape.name = some cost) :
    ∃ c, e.process r (some p) b = .ok c ∧ c.report.actions = [.shutdown] ∧
      ∃ os, c.report.savings = some os ∧
        Savings.option .scaleDown now cost (some (.shape o.shape.name)) ∈ os := by
  have hdecide : e.decide r samples current =
      ({ resource := r.id, actions := [.shutdown], shapes := e.shrunken r current samples }, 0) :=
    decide_of_isIdle hidle
  have hsaving : Savings.option .scaleDown now cost (some (.shape o.shape.name)) ∈
      Savings.estimate (e.price? r) (e.decide r samples current).1 current.name :=
    Savings.scaleDown_mem_estimate (by simp [hdecide]) hnow
      (by simpa [hdecide, Report.offers, hoffers] using ho) hcost
  obtain ⟨os, hos, hmem⟩ := exists_savings_price hsaving
  have hactions : (e.price r current (e.decide r samples current).1).actions = [.shutdown] := by
    simp [price, hdecide]
  have hkept : (e.price r current (e.decide r samples current).1).withoutPostponed p =
      e.price r current (e.decide r samples current).1 := by
    apply Report.withoutPostponed_of_not_covered
    rw [hactions]
    simpa [Postponement.coversAction, Action.kind?] using hp
  refine ⟨_, by simp only [process, hv]; rfl, ?_⟩
  simp only [hkept]
  exact ⟨hactions, os, hos, hmem⟩

end Engine

/-! An idle resource with its resizes postponed, and a cheaper shape of half the size. -/
namespace Idle

def current : Shape Float := ⟨"m5.xlarge", .aws, 4, 16, 0, 0, "", "", ""⟩

def smaller : Shape Float := ⟨"m5.large", .aws, 2, 8, 0, 0, "", "", ""⟩

/-- One reading on each day of a week. -/
def readings : List (Sample Float) :=
  (List.range 7).map fun i => ⟨"i-1", "m5.xlarge", 1704067200 + 86400 * i, 0, 5, -1, -1, -1⟩

def batch : Batch Float := ⟨standardColumns, readings⟩

def resource : Resource := ⟨"i-1", "", "", [(deadlineTag, "1735689600"), (kindsTag, "resize")]⟩

def postponement : Postponement := ⟨⟨⟨20089⟩, .midnight⟩, [.resize]⟩

def engine : Engine Float where
  shapes := .ofList [smaller, current]
  prices := .ofList [⟨"default", "m5.xlarge", "", "", 0.2⟩, ⟨"default", "m5.large", "", "", 0.1⟩]
  rules := []
  settings := Settings.default
  customer := "acme"
  now := default

theorem postponement?_resource : engine.postponement? resource = .ok (some postponement) := by
  have htags : (engine.postponement? resource).toOption = some (some postponement) := by
    decide
  cases hp : engine.postponement? resource with
  | error _ => simp [hp, Except.toOption] at htags
  | ok p => rw [hp] at htags; exact congrArg Except.ok (Option.some.inj htags)

theorem stepMinutes_readings : engine.settings.stepMinutes readings = 1440 := by
  have hgaps : Sampling.gaps readings = List.replicate (5 + 1) 86400 := by decide
  rw [Settings.stepMinutes_of_gaps hgaps]
  rfl

theorem validate_batch : engine.validate batch = .ok (readings, current) := by
  refine Engine.validate_eq_ok_iff.mpr
    ⟨by decide, List.mergeSort_of_pairwise (by decide), _, _, rfl, rfl, ?_, rfl⟩
  rw [stepMinutes_readings]
  decide

theorem isIdle_schedule : (engine.settings.schedule readings).isIdle := by
  rw [Settings.isIdle_schedule_iff, Settings.dailyWindows, stepMinutes_readings, ← List.isEmpty_iff]
  decide +kernel

/-- Constant columns are sorted as they stand. -/
theorem eligible_smaller {required : Requirement Float}
    (h : required = engine.requirement (Trend.ofSamples readings) current .shutdown) :
    Selection.eligible engine.rules engine.settings current required smaller ∧
      ¬ Selection.eligible engine.rules engine.settings current required current := by
  have hsorted : ∀ m : Metric, Stats.sorted (readings.map m.reading) = readings.map m.reading := by
    intro m
    cases m <;> exact List.mergeSort_of_pairwise (by decide)
  rw [h]
  simp only [Trend.ofSamples, MetricTrend.ofValues, hsorted]
  decide +kernel

theorem shrunken_readings :
    engine.shrunken resource current readings = some [{ shape := smaller }] := by
  have hlist : ShapeCatalog.list engine.shapes current.cloud = [smaller, current] :=
    List.mergeSort_of_pairwise (by decide)
  obtain ⟨hsmaller, hcurrent⟩ := eligible_smaller rfl
  rw [Engine.shrunken, Engine.candidates_of_filter (s := smaller) hlist ?_ (by decide)]
  · rfl
  · rw [List.filter_cons_of_pos hsmaller, List.filter_cons_of_neg hcurrent, List.filter_nil]

theorem run_resource : ∃ c, engine.run (fun _ => .ok batch) resource = .completed c ∧
    c.report.actions = [.shutdown] ∧
      ∃ os, c.report.savings = some os ∧ ∃ o ∈ os, o.action = .scaleDown := by
  obtain ⟨now, hnow⟩ : ∃ x, engine.price? resource current.name = some x := ⟨_, rfl⟩
  obtain ⟨cost, hcost⟩ : ∃ x, engine.price? resource smaller.name = some x := ⟨_, rfl⟩
  obtain ⟨c, hc, hactions, os, hos, ho⟩ := Engine.scaleDown_kept validate_batch isIdle_schedule
    (p := postponement) (by decide) shrunken_readings List.mem_cons_self hnow hcost
  refine ⟨c, ?_, hactions, os, hos, _, ho, rfl⟩
  simp only [Engine.run, Engine.runM, postponement?_resource, pure_bind, hc]
  rfl

end Idle

theorem resize_postponed_yet_offered : ∃ c os o,
    Idle.engine.postponement? Idle.resource = .ok (some Idle.postponement) ∧
      Idle.engine.run (fun _ => .ok Idle.batch) Idle.resource = .completed c ∧
      c.report.savings = some os ∧ o ∈ os ∧ Idle.postponement.coversAction o.action := by
  obtain ⟨c, hc, -, os, hos, o, ho, haction⟩ := Idle.run_resource
  exact ⟨c, os, o, Idle.postponement?_resource, hc, hos, ho, by rw [haction]; decide⟩

theorem run_proposes_nothing_postponed_idle : ∃ c,
    Idle.engine.run (fun _ => .ok Idle.batch) Idle.resource = .completed c ∧
      (∀ a ∈ c.report.actions, ¬ Idle.postponement.coversAction a) ∧
      ∀ os, c.report.savings = some os → ∀ o ∈ os, Idle.postponement.coversAction o.action →
        o.action = .scaleDown ∧ .shutdown ∈ c.report.actions := by
  obtain ⟨c, hc, -⟩ := Idle.run_resource
  exact ⟨c, hc, Engine.run_proposes_nothing_postponed Idle.postponement?_resource hc⟩

end FleetSizing
