import FleetSizing.Job
import FleetSizing.Proofs.Report.Entries
import FleetSizing.Proofs.Report.Offers

/-! From the end of the tasks to the sink. Reconciliation only takes parts out of reports, and what is
delivered afterwards are the reconciled reports and nothing else. -/
namespace FleetSizing

variable {α : Type}

namespace Group

variable {P : Report α → Prop} {reports : List (Report α)}

theorem mem_putFirst {r s : Report α} {ss : List (Report α)} (h : s ∈ putFirst r ss) :
    s = r ∨ s ∈ ss := by
  induction ss with
  | nil => cases h
  | cons t ts ih =>
    unfold putFirst at h
    split at h
    · rcases List.mem_cons.mp h with rfl | h
      · exact Or.inl rfl
      · exact Or.inr (List.mem_cons_of_mem _ h)
    · rcases List.mem_cons.mp h with rfl | h
      · exact Or.inr List.mem_cons_self
      · exact (ih h).imp_right (List.mem_cons_of_mem _)

theorem mem_foldl_putFirst {rs ss : List (Report α)} {s : Report α}
    (h : s ∈ rs.foldl (fun ss r => putFirst r ss) ss) : s ∈ rs ∨ s ∈ ss := by
  induction rs generalizing ss with
  | nil => exact Or.inr h
  | cons r rs ih =>
    rcases ih h with h | h
    · exact Or.inl (List.mem_cons_of_mem _ h)
    · rcases mem_putFirst h with rfl | h
      · exact Or.inl List.mem_cons_self
      · exact Or.inr h

theorem resizePass_forall (hresize : ∀ r, P r → (∃ a ∈ r.actions, a.isResize) → P r.withoutResize)
    (h : ∀ r ∈ reports, P r) : ∀ r ∈ (resizePass reports).1, P r := by
  simp only [resizePass, List.mem_map]
  rintro _ ⟨r, hr, rfl⟩
  split
  · rename_i hclashes
    obtain ⟨a, ha, hclash⟩ := List.any_eq_true.mp hclashes
    exact hresize r (h r hr) ⟨a, ha, (Bool.and_eq_true_iff.mp hclash).1⟩
  · exact h r hr

variable [Scalar α]

theorem schedulePass_forall (hschedule : ∀ r, P r → P r.withoutSchedule)
    (h : ∀ r ∈ reports, P r) : ∀ r ∈ (schedulePass reports).1, P r := by
  simp only [schedulePass, List.mem_map]
  rintro _ ⟨r, hr, rfl⟩
  split
  · exact hschedule r (h r hr)
  · exact h r hr

/-- What both neutralizations keep holds of every reconciled report. -/
theorem reconcile_forall
    (hresize : ∀ r, P r → (∃ a ∈ r.actions, a.isResize) → P r.withoutResize)
    (hschedule : ∀ r, P r → P r.withoutSchedule) (day : Day) (history : History α)
    (h : ∀ r ∈ reports, P r) : ∀ r ∈ (reconcile day history reports).1, P r := by
  have hactive : ∀ r ∈ reports.filter (·.status == .success), P r :=
    fun r hr => h r (List.mem_of_mem_filter hr)
  intro r hr
  rcases mem_foldl_putFirst hr with hr | hr
  · exact schedulePass_forall hschedule (resizePass_forall hresize hactive) r hr
  · exact h r hr

end Group

namespace Outcome

variable {o : Outcome α} {report : Report α}

@[simp] theorem report?_withReport (report : Report α) (o : Outcome α) :
    (o.withReport report).report? = o.report?.map fun _ => report := by
  cases o <;> rfl

theorem report?_of_delivery? (hc : o.isCompleted) (h : o.delivery? = some report) :
    o.report? = some report := by
  cases o with
  | completed c => exact h
  | postponed _ _ _ _ => simp [isCompleted] at hc
  | failed _ _ => simp [isCompleted] at hc

end Outcome

/-- Holds of the report of every completed resource. -/
def AllReports (P : Report α → Prop) (outcomes : List (Outcome α)) : Prop :=
  ∀ o ∈ outcomes, ∀ report, o.report? = some report → P report

namespace AllReports

variable {P : Report α → Prop} {outcomes : List (Outcome α)}

theorem modify {report : Report α} (h : AllReports P outcomes) (hr : P report) (i : Nat) :
    AllReports P (outcomes.modify i (Outcome.withReport report)) := by
  intro o ho report' ho'
  obtain ⟨j, hj⟩ := List.mem_iff_getElem?.mp ho
  rw [List.getElem?_modify] at hj
  obtain ⟨o', hmem, rfl⟩ := Option.map_eq_some_iff.mp hj
  split at ho'
  · rw [Outcome.report?_withReport, Option.map_eq_some_iff] at ho'
    obtain ⟨-, -, rfl⟩ := ho'
    exact hr
  · exact h o' (List.mem_of_getElem? hmem) report' ho'

theorem foldl_modify {places : List (Nat × Report α)} (h : AllReports P outcomes)
    (hp : ∀ p ∈ places, P p.2) :
    AllReports P (places.foldl (fun os (i, r) => os.modify i (Outcome.withReport r)) outcomes) :=
  List.foldlRecOn places _ h fun _ hos p hmem => hos.modify (hp p hmem) p.1

end AllReports

namespace Job

variable {P : Report α → Prop}

section

variable [Scalar α]

theorem reconcileGroup_forall
    (hresize : ∀ r, P r → (∃ a ∈ r.actions, a.isResize) → P r.withoutResize)
    (hschedule : ∀ r, P r → P r.withoutSchedule) (day : Day) (s : Reconciliation α)
    (h : AllReports P s.outcomes) (group : String × List Nat) :
    AllReports P (reconcileGroup day s group).outcomes := by
  apply h.foldl_modify
  intro p hp
  refine Group.reconcile_forall hresize hschedule day s.history ?_ p.2 (List.of_mem_zip hp).2
  intro r hr
  obtain ⟨i, -, hi⟩ := List.mem_filterMap.mp hr
  obtain ⟨o, ho, hor⟩ := Option.bind_eq_some_iff.mp hi
  exact h o (List.mem_of_getElem? ho) r hor

/-- What both neutralizations keep survives the reconciliation of all groups. Resizes are taken only out of
reports that have one. -/
theorem reconcile_forall_of_resizes
    (hresize : ∀ r, P r → (∃ a ∈ r.actions, a.isResize) → P r.withoutResize)
    (hschedule : ∀ r, P r → P r.withoutSchedule) (job : Job α) (day : Day)
    {outcomes : List (Outcome α)} (history : History α) (h : AllReports P outcomes) :
    AllReports P (job.reconcile day outcomes history).outcomes :=
  List.foldlRecOn (motive := fun s => AllReports P (Reconciliation.outcomes s)) _ (reconcileGroup day) h
    fun s hs group _ => reconcileGroup_forall hresize hschedule day s hs group

theorem reconcile_forall (hresize : ∀ r, P r → P r.withoutResize)
    (hschedule : ∀ r, P r → P r.withoutSchedule) (job : Job α) (day : Day)
    {outcomes : List (Outcome α)} (history : History α) (h : AllReports P outcomes) :
    AllReports P (job.reconcile day outcomes history).outcomes :=
  reconcile_forall_of_resizes (fun r hr _ => hresize r hr) hschedule job day history h

end

/-- Every new record of the sink is what was delivered for some resource. -/
theorem mem_records_deliver {job : Job α} {pairs : List (Resource × Outcome α)} {sink : Sink α}
    {p : ResultKey × Report α} (h : p ∈ (job.deliver pairs sink).2.records) :
    p ∈ sink.records ∨
      ∃ r o, (r, o) ∈ pairs ∧ p.1 = job.resultKey r ∧ o.delivery? = some p.2 := by
  induction pairs generalizing sink with
  | nil => exact Or.inl h
  | cons q qs ih =>
    obtain ⟨r, o⟩ := q
    have weaken : ∀ {s : Sink α}, p ∈ (job.deliver qs s).2.records → p ∈ s.records ∨
        ∃ r' o', (r', o') ∈ (r, o) :: qs ∧ p.1 = job.resultKey r' ∧ o'.delivery? = some p.2 := by
      intro s hs
      refine (ih hs).imp_right ?_
      rintro ⟨r', o', hm, hp⟩
      exact ⟨r', o', List.mem_cons_of_mem _ hm, hp⟩
    unfold deliver at h
    split at h
    · exact weaken h
    · rename_i report hreport
      have hrecords : p ∈ (sink.append (job.resultKey r) report).2.records →
          p ∈ sink.records ∨ p = (job.resultKey r, report) := by
        unfold Sink.append
        split
        · exact Or.inl
        · simp
      have htail : p ∈ (job.deliver qs (sink.append (job.resultKey r) report).2).2.records := by
        revert h
        generalize sink.append (job.resultKey r) report = attempt
        obtain ⟨refusal, s⟩ := attempt
        cases refusal <;> exact fun hm => hm
      rcases weaken htail with hs | hs
      · rcases hrecords hs with hs | rfl
        · exact Or.inl hs
        · exact Or.inr ⟨r, o, List.mem_cons_self, rfl, hreport⟩
      · exact Or.inr hs

end Job

namespace FanOut

variable [Scalar α]

/-- Every task that has reported back brings the outcome of its own resource; tasks may end in any
order, or not at all. -/
def Reports (e : Engine α) (read : String → Except EngineError (Batch α)) (rs : List Resource)
    (f : FanOut α) : Prop :=
  ∀ i o, (i, o) ∈ f.arrivals → ∃ r, rs[i]? = some r ∧ o = e.run read r

theorem reports_inOrder (e : Engine α) (read : String → Except EngineError (Batch α))
    (rs : List Resource) : (FanOut.inOrder (rs.map (e.run read))).Reports e read rs := by
  intro i o h
  simp only [inOrder, List.mem_mapIdx, List.length_map, List.getElem_map, Prod.mk.injEq] at h
  obtain ⟨j, hj, rfl, rfl⟩ := h
  exact ⟨rs[j], List.getElem?_eq_getElem hj, rfl⟩

omit [Scalar α] in
theorem lookup_mapIdx (os : List (Outcome α)) (n i : Nat) :
    (os.mapIdx fun j o => (j + n, o)).lookup (i + n) = os[i]? := by
  induction os generalizing n i with
  | nil => rfl
  | cons o os ih =>
    rw [List.mapIdx_cons]
    cases i with
    | zero => simp
    | succ i =>
      have hne : (i + 1 + n == 0 + n) = false := by
        rw [beq_eq_false_iff_ne]
        omega
      have hshift := ih (n + 1) i
      simp only [← Nat.add_assoc, Nat.add_right_comm _ n 1] at hshift
      rw [List.lookup_cons]
      simp only [hne]
      exact hshift

omit [Scalar α] in
theorem outcomes_eq_of_lookup {f : FanOut α} {os : List (Outcome α)} {rs : List Resource}
    (h : ∀ i, f.arrivals.lookup i = os[i]?) (hlen : os.length = rs.length) : f.outcomes rs = os := by
  apply List.ext_getElem
  · simp [outcomes, hlen]
  · intro i _ hi
    simp [outcomes, h, hi]

omit [Scalar α] in
theorem outcomes_inOrder {os : List (Outcome α)} {rs : List Resource} (h : os.length = rs.length) :
    (inOrder os).outcomes rs = os :=
  outcomes_eq_of_lookup (fun i => lookup_mapIdx os 0 i) h

omit [Scalar α] in
theorem mem_outcomes {f : FanOut α} {rs : List Resource} {o : Outcome α} (h : o ∈ f.outcomes rs) :
    (∃ i, (i, o) ∈ f.arrivals) ∨ ∃ r ∈ rs, o = aborted r := by
  simp only [outcomes, List.mem_mapIdx] at h
  obtain ⟨i, hi, rfl⟩ := h
  cases hl : f.arrivals.lookup i with
  | none => exact Or.inr ⟨rs[i], List.getElem_mem hi, rfl⟩
  | some o =>
    obtain ⟨before, after, harrivals, -⟩ := List.lookup_eq_some_iff.mp hl
    exact Or.inl ⟨i, by simp [harrivals]⟩

theorem outcomes_forall {P : Report α → Prop} {e : Engine α}
    {read : String → Except EngineError (Batch α)} {rs : List Resource} {f : FanOut α}
    (hf : f.Reports e read rs) (h : ∀ r c, e.run read r = .completed c → P c.report) :
    AllReports P (f.outcomes rs) := by
  intro o ho report hreport
  rcases mem_outcomes ho with ⟨i, hi⟩ | ⟨r, -, rfl⟩
  · obtain ⟨r, -, rfl⟩ := hf i o hi
    cases hrun : e.run read r with
    | completed c =>
      rw [hrun] at hreport
      cases hreport
      exact h r c hrun
    | postponed _ _ _ _ => rw [hrun] at hreport; cases hreport
    | failed _ _ => rw [hrun] at hreport; cases hreport
  · cases hreport

theorem outcomes_wellFormed {e : Engine α} {read : String → Except EngineError (Batch α)}
    {rs : List Resource} {f : FanOut α} (hf : f.Reports e read rs) :
    AllReports Report.WellFormed (f.outcomes rs) :=
  outcomes_forall hf fun _ _ => Engine.run_wellFormed

end FanOut

namespace Runner

variable [Scalar α]

theorem reports_outcomes (runner : Runner α) (job : Job α) (rules : RuleSet) :
    (FanOut.inOrder (runner.outcomes job rules)).Reports (runner.engine job rules) runner.read
      job.resources :=
  FanOut.reports_inOrder _ _ _

/-- Whatever is postponed, in whatever order the tasks end and however the groups are reconciled: the
report delivered for a completed resource is well formed, and the sink records no report beside the
delivered ones. -/
theorem delivered_report_wellFormed (runner : Runner α) (job : Job α) {rules : RuleSet} {f : FanOut α}
    (hf : f.Reports (runner.engine job rules) runner.read job.resources) (l : Ledger α) :
    let barrier := job.reconcile runner.now.day (f.outcomes job.resources)
      (l.history.upsertAll f.writes)
    let pairs := job.resources.zip barrier.outcomes
    (∀ r o report, (r, o) ∈ pairs → o.isCompleted → o.delivery? = some report → report.WellFormed) ∧
      ∀ p ∈ (job.conclude runner.now.day f l).2.sink.records, p ∈ l.sink.records ∨
        ∃ r o, (r, o) ∈ pairs ∧ p.1 = job.resultKey r ∧ o.delivery? = some p.2 := by
  intro barrier pairs
  have hall : AllReports Report.WellFormed barrier.outcomes :=
    Job.reconcile_forall (P := Report.WellFormed) (fun _ => Report.withoutResize_wellFormed)
      (fun _ => Report.withoutSchedule_wellFormed) job _ _ (FanOut.outcomes_wellFormed hf)
  constructor
  · intro r o report hpair hcompleted hdelivery
    exact hall o (List.of_mem_zip hpair).2 report (Outcome.report?_of_delivery? hcompleted hdelivery)
  · intro p hp
    exact Job.mem_records_deliver hp

end Runner

/-! A job of one resource with a single reading, in no group. -/
namespace Lone

def shape : Shape Rat := ⟨"m5.large", .aws, 2, 8, 0, 0, "", "", ""⟩

def reading : Sample Rat := ⟨"i-1", "m5.large", 0, 0, 5, -1, -1, -1⟩

def resource : Resource := ⟨"i-1", "", "", []⟩

def job : Job Rat :=
  ⟨"j-1", .aws, "", "", [resource], ⟨[], { Settings.default with minAllowedDays := 0 }, []⟩⟩

def runner : Runner Rat where
  read := fun _ => .ok ⟨standardColumns, [reading]⟩
  shapes := .ofList [shape]
  prices := .ofList []
  compiler := .byLength
  now := default
  concurrency := 1
  concurrency_pos := Nat.one_pos

theorem outcomes_reconciled (day : Day) (history : History Rat) (o : Outcome Rat) :
    (job.reconcile day [o] history).outcomes = [o] := by
  have hgroup : job.group? resource o = none := by
    unfold Job.group?
    split <;> rfl
  simp [Job.reconcile, Job.groups, show job.resources = [resource] from rfl, hgroup]

end Lone

/-! Three resources of one group, with a reading each. The first one grows, so that the next may not shrink;
the last one would shrink as well, but for its postponement. -/
namespace Team

def small : Shape Rat := ⟨"m5.large", .aws, 2, 8, 0, 0, "", "", ""⟩

def large : Shape Rat := ⟨"m5.xlarge", .aws, 4, 16, 0, 0, "", "", ""⟩

def member (id : String) (tags : Tags) : Resource := ⟨id, "", "", ("rightsizer:group", "team") :: tags⟩

def growing : Resource := member "i-1" []

def shrinking : Resource := member "i-2" []

def held : Resource := member "i-3" [(deadlineTag, "1735689600"), (kindsTag, "resize")]

def postponement : Postponement := ⟨⟨⟨20089⟩, .midnight⟩, [.resize]⟩

def reading (id shape : String) (load : Rat) : Sample Rat := ⟨id, shape, 0, load, load, -1, -1, -1⟩

def read (id : String) : Except EngineError (Batch Rat) :=
  .ok ⟨standardColumns, [if id = "i-1" then reading id "m5.large" 90 else reading id "m5.xlarge" 20]⟩

def job : Job Rat := { Lone.job with resources := [growing, shrinking, held] }

def runner : Runner Rat :=
  { Lone.runner with
    read
    shapes := .ofList [small, large]
    prices := .ofList [⟨"default", "m5.large", "", "", 1/10⟩, ⟨"default", "m5.xlarge", "", "", 1/5⟩] }

def engine : Engine Rat := runner.engine job []

/-- What a load asks for, whatever it is the load of. -/
def trend (load : Rat) : Trend Rat := .ofSamples [reading "" "" load]

variable {id shape : String} {load : Rat} {r : Resource} {current s : Shape Rat} {a : Action}

theorem resizeAction?_trend : (trend 90).resizeAction? = some .scaleUp ∧
    (trend 20).resizeAction? = some .scaleDown := by
  simp only [trend, Trend.ofSamples, MetricTrend.ofValues, Stats.sorted_alone]
  decide +kernel

/-- Of the two shapes only the other one will do. -/
theorem eligible_other :
    let up := engine.requirement (trend 90) small .scaleUp
    let down := engine.requirement (trend 20) large .scaleDown
    (¬ Selection.eligible engine.rules engine.settings small up small ∧
      Selection.eligible engine.rules engine.settings small up large) ∧
    (Selection.eligible engine.rules engine.settings large down small ∧
      ¬ Selection.eligible engine.rules engine.settings large down large) := by
  simp only [trend, Trend.ofSamples, MetricTrend.ofValues, Stats.sorted_alone]
  decide +kernel

theorem list_shapes : ShapeCatalog.list engine.shapes .aws = [small, large] :=
  List.mergeSort_of_pairwise (by decide)

theorem resizeFor_up : engine.resizeFor r small [trend 90] = some ⟨.scaleUp, [{ shape := large }]⟩ := by
  obtain ⟨⟨hsmall, hlarge⟩, -⟩ := eligible_other
  have hfilter : [small, large].filter (Selection.eligible engine.rules engine.settings small
      (engine.requirement (trend 90) small .scaleUp)) = [large] := by
    rw [List.filter_cons_of_neg hsmall, List.filter_cons_of_pos hlarge, List.filter_nil]
  exact Engine.resizeFor_alone resizeAction?_trend.1
    (Engine.candidates_of_filter list_shapes hfilter (by decide)) (List.cons_ne_nil _ _)

theorem resizeFor_down : engine.resizeFor r large [trend 20] = some ⟨.scaleDown, [{ shape := small }]⟩ := by
  obtain ⟨-, hsmall, hlarge⟩ := eligible_other
  have hfilter : [small, large].filter (Selection.eligible engine.rules engine.settings large
      (engine.requirement (trend 20) large .scaleDown)) = [small] := by
    rw [List.filter_cons_of_pos hsmall, List.filter_cons_of_neg hlarge, List.filter_nil]
  exact Engine.resizeFor_alone resizeAction?_trend.2
    (Engine.candidates_of_filter list_shapes hfilter (by decide)) (List.cons_ne_nil _ _)

theorem validate_reading (h : engine.shapes.get? shape = some current) :
    engine.validate ⟨standardColumns, [reading id shape load]⟩ = .ok ([reading id shape load], current) := by
  have hgaps : Stats.median? (Sampling.gaps [reading id shape load]) = none := by
    simp [Sampling.gaps, Stats.median?]
  have hstep : engine.settings.stepMinutes [reading id shape load] = 5 := by
    rw [Settings.stepMinutes, Sampling.stepMinutes, hgaps]
    rfl
  refine Engine.validate_eq_ok_iff.mpr ⟨rfl, List.mergeSort_singleton _, _, _, rfl, rfl, ?_, h⟩
  rw [hstep]
  change ¬ Engine.span 5 (reading "" "" 0) (reading "" "" 0) < ((0 : Nat) : Int) * 86400
  decide

/-- A successful report with one action. -/
def Proposes (report : Report Rat) (id : String) (a : Action) : Prop :=
  report.resource = id ∧ report.status = .success ∧ report.actions = [a]

theorem Proposes.withoutPostponed {report : Report Rat} {p : Postponement} (h : Proposes report id a)
    (ha : p.coversAction a) : Proposes (report.withoutPostponed p) id .noAction := by
  obtain ⟨hid, hstatus, hactions⟩ := h
  refine ⟨(Report.resource_withoutPostponed p).trans hid,
    (Report.status_withoutPostponed p).trans hstatus, ?_⟩
  have hremoved : [a].filter p.coversAction = [a] := List.filter_eq_self.mpr (by simpa using ha)
  have hkept : [a].filter (!p.coversAction ·) = [] := List.filter_eq_nil_iff.mpr (by simpa using ha)
  rw [Report.withoutPostponed, hactions, hremoved, hkept, if_neg (by simp)]
  rfl

theorem Proposes.withoutResize {report : Report Rat} (h : Proposes report id a) (ha : a.isResize) :
    Proposes report.withoutResize id .noAction := by
  obtain ⟨hid, hstatus, hactions⟩ := h
  have hkept : [a].filter (!·.isResize) = [] := List.filter_eq_nil_iff.mpr (by simpa using ha)
  rw [Report.withoutResize, hactions, hkept]
  exact ⟨(Report.resource_settled _).trans hid, (Report.status_settled _).trans hstatus, rfl⟩

theorem proposes_priced {d : Decision Rat} (h : 10 < load)
    (hresize : engine.resizeFor r current [trend load] = some d) :
    Proposes (engine.price r current (engine.decide r [reading id shape load] current).1) r.id d.action := by
  have htrends : engine.trendsOf [reading id shape load] = [trend load] :=
    Engine.trendsOf_alone (by decide) (by decide) h
  rw [Engine.decide_of_busy (by decide) (fun s hs => by rwa [List.mem_singleton.mp hs]) (htrends ▸ hresize)]
  exact ⟨rfl, rfl, rfl⟩

theorem run_growing : ∃ c, engine.run read growing = .completed c ∧ Proposes c.report "i-1" .scaleUp :=
  ⟨_, Engine.run_of_valid rfl rfl (validate_reading rfl), proposes_priced (by decide) resizeFor_up⟩

theorem run_shrinking : ∃ c, engine.run read shrinking = .completed c ∧
    Proposes c.report "i-2" .scaleDown :=
  ⟨_, Engine.run_of_valid rfl rfl (validate_reading rfl), proposes_priced (by decide) resizeFor_down⟩

theorem postponement?_held : engine.postponement? held = .ok (some postponement) := by
  have htags : (engine.postponement? held).toOption = some (some postponement) := by
    decide
  cases hp : engine.postponement? held with
  | error _ => simp [hp, Except.toOption] at htags
  | ok p => rw [hp] at htags; exact congrArg Except.ok (Option.some.inj htags)

theorem run_held : ∃ c, engine.run read held = .completed c ∧ Proposes c.report "i-3" .noAction := by
  have hpriced : Proposes
      (engine.price held large (engine.decide held [reading "i-3" "m5.xlarge" 20] large).1) "i-3" .scaleDown :=
    proposes_priced (by decide) resizeFor_down
  exact ⟨_, Engine.run_of_partial postponement?_held (by decide) rfl (validate_reading rfl),
    hpriced.withoutPostponed (by decide)⟩

variable {c₁ c₂ c₃ : Completed Rat}

theorem groups_job : job.groups [.completed c₁, .completed c₂, .completed c₃] = [("team", [0, 1, 2])] := by
  have hplaces : ((job.resources.zip [.completed c₁, .completed c₂, .completed c₃]).zipIdx.filterMap
      fun ((r, o), i) => (job.group? r o).map fun name => (name, i)) =
        [("team", 0), ("team", 1), ("team", 2)] := rfl
  have hnames : ([("team", 0), ("team", 1), ("team", 2)].map (·.1)).eraseDups = ["team"] := by decide
  rw [Job.groups, hplaces]
  simp only [hnames, List.mergeSort_singleton]
  decide

section

variable (h₁ : Proposes c₁.report "i-1" .scaleUp) (h₂ : Proposes c₂.report "i-2" .scaleDown)
  (h₃ : Proposes c₃.report "i-3" .noAction)

include h₁ h₂ h₃

theorem passes_reports : Group.passes [c₁.report, c₂.report, c₃.report] =
    ([c₁.report, c₂.report.withoutResize, c₃.report], ⟨1, 0⟩) := by
  have hsized : Group.resizePass [c₁.report, c₂.report, c₃.report] =
      ([c₁.report, c₂.report.withoutResize, c₃.report], 1) := by
    simp [Group.resizePass, Group.resizeClashes, Report.has, h₁.2.2, h₂.2.2, h₃.2.2, Group.acceptable,
      Action.isResize]
  have hnone : ∀ r ∈ [c₁.report, c₂.report.withoutResize, c₃.report], r.proposedSchedule? = none := by
    simp [Report.proposedSchedule?, Report.has, h₁.2.2, h₃.2.2, (h₂.withoutResize rfl).2.2]
  have hfloor : Group.runtimeFloor? [c₁.report, c₂.report.withoutResize, c₃.report] = none := by
    rw [Group.runtimeFloor?, List.filterMap_eq_nil_iff.mpr hnone]
    rfl
  simp [Group.passes, hsized, Group.schedulePass, hfloor, Group.scheduleClashes]

theorem reconcile_outcomes (day : Day) (history : History Rat) :
    let barrier := job.reconcile day [.completed c₁, .completed c₂, .completed c₃] history
    barrier.outcomes =
        [.completed c₁, .completed { c₂ with report := c₂.report.withoutResize }, .completed c₃] ∧
      barrier.events = [.groupReconciled "team" 3 1] := by
  intro barrier
  obtain ⟨synced, hresults⟩ : ∃ synced, Group.reconcile day history [c₁.report, c₂.report, c₃.report] =
      ([c₁.report, c₂.report.withoutResize, c₃.report], synced, ⟨1, 0⟩) := by
    refine ⟨_, Prod.ext ?_ (Prod.ext rfl ?_)⟩ <;>
      simp [Group.reconcile, passes_reports h₁ h₂ h₃, h₁.1, h₁.2.1, h₂.1, h₂.2.1, h₃.1, h₃.2.1,
        Group.putFirst, (h₂.withoutResize rfl).1]
  have hbarrier : barrier = Job.reconcileGroup day
      ⟨[.completed c₁, .completed c₂, .completed c₃], history, []⟩ ("team", [0, 1, 2]) := by
    simp only [barrier, Job.reconcile, groups_job]
    rfl
  have hreports : [0, 1, 2].filterMap (fun i : Nat =>
      ([.completed c₁, .completed c₂, .completed c₃] : List (Outcome Rat))[i]?.bind Outcome.report?) =
        [c₁.report, c₂.report, c₃.report] := rfl
  rw [hbarrier]
  simp only [Job.reconcileGroup, hreports, hresults]
  exact ⟨rfl, rfl⟩

end

def fanOut : FanOut Rat := .inOrder (runner.outcomes job [])

def barrier : Job.Reconciliation Rat :=
  job.reconcile runner.now.day (fanOut.outcomes job.resources)
    (({} : Ledger Rat).history.upsertAll fanOut.writes)

theorem barrier_eq : ∃ up down still, engine.run read shrinking = .completed down ∧
    Proposes up.report "i-1" .scaleUp ∧ Proposes down.report "i-2" .scaleDown ∧
    Proposes still.report "i-3" .noAction ∧ barrier.outcomes =
      [.completed up, .completed { down with report := down.report.withoutResize }, .completed still] ∧
    barrier.events = [.groupReconciled "team" 3 1] := by
  obtain ⟨up, hup, h₁⟩ := run_growing
  obtain ⟨down, hdown, h₂⟩ := run_shrinking
  obtain ⟨still, hstill, h₃⟩ := run_held
  have houtcomes : fanOut.outcomes job.resources = [.completed up, .completed down, .completed still] := by
    rw [← hup, ← hdown, ← hstill]
    exact FanOut.outcomes_inOrder rfl
  have hreconciled := reconcile_outcomes h₁ h₂ h₃ runner.now.day
    (({} : Ledger Rat).history.upsertAll fanOut.writes)
  rw [← houtcomes] at hreconciled
  exact ⟨up, down, still, hdown, h₁, h₂, h₃, hreconciled⟩

end Team

/-- Of the two members that would shrink, the group holds back one and the postponement the other. -/
theorem delivered_report_wellFormed_team :
    Team.fanOut.Reports Team.engine Team.read Team.job.resources ∧
      Team.engine.postponement? Team.held = .ok (some Team.postponement) ∧
      ¬ Team.postponement.coversAll ∧ Team.barrier.events = [.groupReconciled "team" 3 1] ∧
      (∃ c, Team.engine.run Team.read Team.shrinking = .completed c ∧ c.report.actions = [.scaleDown]) ∧
      ∃ up down still, Team.barrier.outcomes = [.completed up, .completed down, .completed still] ∧
        up.report.actions = [.scaleUp] ∧ down.report.actions = [.noAction] ∧
        still.report.actions = [.noAction] ∧
        up.report.WellFormed ∧ down.report.WellFormed ∧ still.report.WellFormed := by
  have hreports : Team.fanOut.Reports Team.engine Team.read Team.job.resources :=
    Runner.reports_outcomes Team.runner Team.job []
  obtain ⟨up, down, still, hdown, h₁, h₂, h₃, houtcomes, hevents⟩ := Team.barrier_eq
  have hwell := (Runner.delivered_report_wellFormed Team.runner Team.job hreports {}).1
  change ∀ r o report, (r, o) ∈ Team.job.resources.zip Team.barrier.outcomes → _ at hwell
  rw [houtcomes] at hwell
  refine ⟨hreports, Team.postponement?_held, by decide, hevents, ⟨down, hdown, h₂.2.2⟩, up, _, still,
    houtcomes, h₁.2.2, (h₂.withoutResize rfl).2.2, h₃.2.2, ?_, ?_, ?_⟩
  · exact hwell Team.growing (.completed up) _ List.mem_cons_self rfl rfl
  · exact hwell Team.shrinking (.completed { down with report := down.report.withoutResize }) _
      (List.mem_cons_of_mem _ List.mem_cons_self) rfl rfl
  · exact hwell Team.held (.completed still) _
      (List.mem_cons_of_mem _ (List.mem_cons_of_mem _ List.mem_cons_self)) rfl rfl

end FleetSizing
