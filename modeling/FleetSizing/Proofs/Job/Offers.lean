import FleetSizing.Proofs.Job.Barrier

/-! The shapes that a job delivers fit the reports that they are delivered in. -/
namespace FleetSizing

variable {α : Type} [Scalar α] {e : Engine α} {read : String → Except EngineError (Batch α)}
  {report : Report α}

namespace Engine

theorem Founded.withoutResize (h : e.Founded read report)
    (hresize : ∃ a ∈ report.actions, a.isResize) : e.Founded read report.withoutResize := by
  obtain ⟨b, samples, current, hread, hv, hbacks⟩ := h
  refine ⟨b, samples, current, ?_, hv, hbacks.withoutResize hresize⟩
  rw [Report.withoutResize, Report.resource_settled]
  exact hread

theorem Founded.withoutSchedule (h : e.Founded read report) :
    e.Founded read report.withoutSchedule := by
  obtain ⟨b, samples, current, hread, hv, hbacks⟩ := h
  refine ⟨b, samples, current, ?_, hv, hbacks.withoutSchedule⟩
  rw [Report.withoutSchedule, Report.resource_settled]
  exact hread

end Engine

namespace Runner

/-- The shapes offered for a completed resource fit its samples, its current shape and the reported
actions, and still do so in the report that is delivered once the groups are reconciled. -/
theorem offers_fit (runner : Runner α) (job : Job α) {rules : RuleSet} {f : FanOut α}
    (hf : f.Reports (runner.engine job rules) runner.read job.resources) (l : Ledger α) :
    let e := runner.engine job rules
    let barrier := job.reconcile runner.now.day (f.outcomes job.resources)
      (l.history.upsertAll f.writes)
    let pairs := job.resources.zip barrier.outcomes
    (∀ r c, e.run runner.read r = .completed c →
      c.report.resource = r.id ∧ e.Founded runner.read c.report) ∧
    ∀ r o report, (r, o) ∈ pairs → o.isCompleted → o.delivery? = some report →
      e.Founded runner.read report := by
  intro e barrier pairs
  refine ⟨fun r c => Engine.run_founded, ?_⟩
  have hall : AllReports (e.Founded runner.read) barrier.outcomes :=
    Job.reconcile_forall_of_resizes (fun _ => Engine.Founded.withoutResize)
      (fun _ => Engine.Founded.withoutSchedule) job _ _
      (FanOut.outcomes_forall hf fun _ _ hrun => (Engine.run_founded hrun).2)
  intro r o report hpair hcompleted hdelivery
  exact hall o (List.of_mem_zip hpair).2 report (Outcome.report?_of_delivery? hcompleted hdelivery)

end Runner

/-! A resource with a busy network and little else to do. No shape has the network that it asks for, so a
smaller one is found for what it falls back to. -/
namespace Fallback

def current : Shape Rat := ⟨"m5.xlarge", .aws, 4, 16, 1000, 0, "", "", ""⟩

def smaller : Shape Rat := ⟨"r5.large", .aws, 2, 16, 1000, 0, "", "", ""⟩

def reading : Sample Rat := ⟨"i-1", "m5.xlarge", 0, 25, 10, 95, -1, -1⟩

def runner : Runner Rat :=
  { Lone.runner with
    read := fun _ => .ok ⟨standardColumns, [reading]⟩
    shapes := .ofList [current, smaller] }

def engine : Engine Rat := runner.engine Lone.job []

theorem validate_reading :
    engine.validate ⟨standardColumns, [reading]⟩ = .ok ([reading], current) :=
  Engine.validate_eq_ok_iff.mpr
    ⟨by decide, List.mergeSort_singleton _, reading, reading, rfl, rfl, by decide +kernel, rfl⟩

def trend : Trend Rat := Trend.ofSamples [reading]

/-- The trend with its network left out and its memory taken as steady. -/
def fallback : Trend Rat :=
  { trend with
    network := { trend.network with excluded := true }
    iops := { trend.iops with excluded := true }
    memory := trend.memory.rebaseline Trend.fallbackThreshold }

theorem resizeAction?_trend : trend.resizeAction? = some .changeShape := by
  simp only [trend, Trend.ofSamples, MetricTrend.ofValues, Stats.sorted_alone]
  decide +kernel

theorem fallback?_trend : trend.fallback? = some fallback ∧
    fallback.resizeAction? = some .scaleDown := by
  have hambiguous : trend.isAmbiguous := by
    simp only [trend, Trend.ofSamples, MetricTrend.ofValues, Stats.sorted_alone]
    decide +kernel
  have hcpu : trend.cpu.effective = .down := by
    simp only [trend, Trend.ofSamples, MetricTrend.ofValues, Stats.sorted_alone]
    decide +kernel
  have hmemory : trend.memory.effective = .strongDown := by
    simp only [trend, Trend.ofSamples, MetricTrend.ofValues, Stats.sorted_alone]
    decide +kernel
  constructor
  · rw [Trend.fallback?, if_pos hambiguous, hcpu, hmemory]
    rfl
  · simp only [fallback, trend, Trend.ofSamples, MetricTrend.ofValues, Stats.sorted_alone]
    decide +kernel

theorem list_shapes : ShapeCatalog.list engine.shapes current.cloud = [current, smaller] :=
  List.mergeSort_of_pairwise (by decide)

theorem candidates_trend {q : Requirement Rat}
    (hq : q = engine.requirement trend current .changeShape) :
    engine.candidates Lone.resource current q = [] := by
  have hnone : ∀ s ∈ [current, smaller],
      ¬ Selection.eligible engine.rules engine.settings current q s := by
    rw [hq]
    simp only [trend, Trend.ofSamples, MetricTrend.ofValues, Stats.sorted_alone]
    decide +kernel
  rw [Engine.candidates, list_shapes, Selection.select, Selection.ranking,
    List.filter_eq_nil_iff.mpr hnone]
  simp

theorem candidates_fallback {q : Requirement Rat}
    (hq : q = engine.requirement fallback current .scaleDown) :
    engine.candidates Lone.resource current q = [smaller] := by
  have heligible : ¬ Selection.eligible engine.rules engine.settings current q current ∧
      Selection.eligible engine.rules engine.settings current q smaller := by
    rw [hq]
    simp only [fallback, trend, Trend.ofSamples, MetricTrend.ofValues, Stats.sorted_alone]
    decide +kernel
  refine Engine.candidates_of_filter list_shapes ?_ (by decide)
  rw [List.filter_cons_of_neg heligible.1, List.filter_cons_of_pos heligible.2, List.filter_nil]

theorem resizeFor_trend : engine.resizeFor Lone.resource current [trend] =
    some ⟨.scaleDown, [{ shape := smaller }]⟩ := by
  have hprimary : engine.tryResize Lone.resource current trend .changeShape = none := by
    rw [Engine.tryResize, candidates_trend rfl]
    rfl
  have hfallback : engine.tryResize Lone.resource current fallback .scaleDown =
      some ⟨.scaleDown, [{ shape := smaller }]⟩ := by
    rw [Engine.tryResize, candidates_fallback rfl]
    rfl
  have hresize : engine.resize Lone.resource current trend .changeShape =
      some ⟨.scaleDown, [{ shape := smaller }]⟩ := by
    simp [Engine.resize, hprimary, fallback?_trend, hfallback]
  rw [Engine.resizeFor, show Trend.actionOf? [trend] = some .changeShape from resizeAction?_trend]
  exact hresize

theorem run_resource : ∃ c, engine.run runner.read Lone.resource = .completed c ∧
    c.report.actions = [.scaleDown] ∧ c.report.offers = [{ shape := smaller }] := by
  have htrends : engine.trendsOf [reading] = [trend] :=
    Engine.trendsOf_alone (by decide) (by decide) (by decide)
  have hresize := resizeFor_trend
  rw [← htrends] at hresize
  have hdecide := Engine.decide_of_busy (by decide) (by decide) hresize
  refine ⟨_, Engine.run_of_valid rfl rfl validate_reading, ?_⟩
  rw [hdecide]
  exact ⟨rfl, rfl⟩

def fanOut : FanOut Rat := .inOrder (runner.outcomes Lone.job [])

def pairs : List (Resource × Outcome Rat) :=
  Lone.job.resources.zip (Lone.job.reconcile runner.now.day (fanOut.outcomes Lone.job.resources)
    (({} : Ledger Rat).history.upsertAll fanOut.writes)).outcomes

theorem pairs_eq : pairs = [(Lone.resource, engine.run runner.read Lone.resource)] := by
  have houtcomes : fanOut.outcomes Lone.job.resources = [engine.run runner.read Lone.resource] :=
    FanOut.outcomes_inOrder rfl
  rw [pairs, houtcomes, Lone.outcomes_reconciled]
  rfl

end Fallback

theorem offers_fit_fallback :
    Fallback.fanOut.Reports Fallback.engine Fallback.runner.read Lone.job.resources ∧
      ∃ c, (Lone.resource, Outcome.completed c) ∈ Fallback.pairs ∧ c.report.actions = [.scaleDown] ∧
        c.report.offers.map (·.shape.name) = ["r5.large"] ∧
        Fallback.engine.Founded Fallback.runner.read c.report := by
  have hreports : Fallback.fanOut.Reports Fallback.engine Fallback.runner.read Lone.job.resources :=
    Runner.reports_outcomes Fallback.runner Lone.job []
  obtain ⟨c, hrun, hactions, hoffers⟩ := Fallback.run_resource
  have hpair : (Lone.resource, Outcome.completed c) ∈ Fallback.pairs := by
    rw [Fallback.pairs_eq, hrun]
    exact List.mem_singleton.mpr rfl
  have hfounded := (Runner.offers_fit Fallback.runner Lone.job hreports {}).2
  exact ⟨hreports, c, hpair, hactions, by rw [hoffers]; rfl,
    hfounded Lone.resource _ c.report hpair rfl rfl⟩

end FleetSizing
