import FleetSizing.Proofs.Job.Account
import FleetSizing.Proofs.Job.Groups
import FleetSizing.Proofs.Report.Entries
import FleetSizing.Proofs.Report.Steady

/-! Whether the entries of a day say what the latest report of their resource says. A run writes entries for
what it proposes or postpones, and brings others in line only in groups; the rest stay as earlier runs left
them. -/
namespace FleetSizing

variable {α : Type}

/-- A history that refuses every write holds nothing of a day. -/
def History.Unheld (day : Day) (h : History α) : Prop :=
  h.isSealed → ∀ resource kind, h.get? resource kind day = none

theorem History.unheld_upsert {day : Day} (h : History α) (e : Entry α) (hh : h.Unheld day) :
    (h.upsert e).Unheld day := by
  unfold upsert
  split
  · exact hh
  · rename_i hopen
    exact fun hsealed => (hopen hsealed).elim

variable [Scalar α]

/-- A ledger from which one run leads to another; the tasks of the run may end in any order. -/
inductive Ledger.Ran (l : Ledger α) : Ledger α → Prop
  | refused {runner : Runner α} {job : Job α} {fault : JobFault} :
      job.rules? runner.compiler = .error fault → Ran l l
  | ended {runner : Runner α} {job : Job α} {rules : RuleSet} {f : FanOut α} :
      job.rules? runner.compiler = .ok rules → f.Completes (runner.outcomes job rules) →
      Ran l (job.conclude runner.now.day f { l with
        events := l.events ++ [.jobStarted job.resources.length runner.concurrency] }).2

theorem Ledger.unheld_ran {l l' : Ledger α} {day : Day} (h : l.Ran l') (hl : l.history.Unheld day) :
    l'.history.Unheld day := by
  cases h with
  | refused _ => exact hl
  | @ended runner job rules f _ _ =>
    exact Job.conclude_of_upsert runner.now.day History.unheld_upsert job f _ hl

theorem Ledger.unheld_of_runs {l l' : Ledger α} {day : Day} (h : Relation.ReflTransGen Ledger.Ran l l')
    (hl : l.history.Unheld day) : l'.history.Unheld day := by
  induction h with
  | refl => exact hl
  | tail _ hran ih => exact unheld_ran hran ih

namespace Runner

variable {runner : Runner α} {job : Job α} {rules : RuleSet} {f : FanOut α} {l : Ledger α} {r : Resource}
  {c : Completed α} {i : Nat} {kind : Kind}

/-- Another completed resource of the job is in the same group. -/
def Grouped (runner : Runner α) (job : Job α) (rules : RuleSet) (r : Resource) : Prop :=
  let run := (runner.engine job rules).run runner.read
  ∃ name, job.group? r (run r) = some name ∧
    ∃ r' ∈ job.resources, r'.id ≠ r.id ∧ job.group? r' (run r') = some name

/-- A recommended entry that a run neither writes anew nor brings in line, and that says what the report
no longer does. -/
structure Stale (runner : Runner α) (job : Job α) (rules : RuleSet) (h : History α) (r : Resource)
    (report : Report α) (kind : Kind) : Prop where
  unproposed : report.actionOf? kind = none
  allowed : ¬ (runner.engine job rules).Postpones r kind
  alone : ¬ runner.Grouped job rules r
  left : ∃ e, h.get? r.id kind runner.now.day = some e ∧ e.status = .recommended ∧ e.action ≠ .noAction

omit [Scalar α] in
theorem getElem?_ids (hi : job.resources[i]? = some r) :
    (job.resources.map (·.id))[i]? = some r.id := by
  rw [List.getElem?_map, hi]
  rfl

theorem getElem?_outcomes (hi : job.resources[i]? = some r) :
    (runner.outcomes job rules)[i]? = some ((runner.engine job rules).run runner.read r) := by
  rw [outcomes, List.getElem?_map, hi]
  rfl

theorem named_outcomes :
    Job.Named (job.resources.map (·.id)) (runner.outcomes job rules) := by
  intro j c hc
  rw [outcomes, List.getElem?_map, Option.map_eq_some_iff] at hc
  obtain ⟨r, hr, hrun⟩ := hc
  obtain ⟨p, b, -, -, -, hprocess⟩ := Engine.run_eq_completed hrun
  rw [List.getElem?_map, hr, Option.map_some, Engine.resource_process hprocess]
  exact ⟨rfl, Engine.status_process hprocess⟩

theorem getElem?_zip_outcomes {o : Outcome α} :
    (job.resources.zip (runner.outcomes job rules))[i]? = some (r, o) ↔
      job.resources[i]? = some r ∧ o = (runner.engine job rules).run runner.read r := by
  rw [List.getElem?_zip_eq_some]
  refine and_congr_right fun hi => ?_
  rw [getElem?_outcomes hi, Option.some.injEq, eq_comm]

theorem accompanied_iff_grouped (hnodup : (job.resources.map (·.id)).Nodup)
    (hi : job.resources[i]? = some r) :
    job.Accompanied (runner.outcomes job rules) i ↔ runner.Grouped job rules r := by
  have hid : ∀ (j : Nat) r', job.resources[j]? = some r' → (r'.id = r.id ↔ j = i) := by
    intro j r' hj
    constructor
    · intro heq
      exact Job.place_inj hnodup ((getElem?_ids hj).trans (congrArg some heq)) (getElem?_ids hi)
    · rintro rfl
      rw [Option.some.inj (hj.symm.trans hi)]
  rw [Job.accompanied_iff (getElem?_zip_outcomes.mpr ⟨hi, rfl⟩), Grouped]
  refine exists_congr fun name => and_congr_right fun _ => ?_
  constructor
  · rintro ⟨j, r', o', hne, hpair, hgroup⟩
    obtain ⟨hj, rfl⟩ := getElem?_zip_outcomes.mp hpair
    exact ⟨r', List.mem_of_getElem? hj, fun heq => hne ((hid j r' hj).mp heq), hgroup⟩
  · rintro ⟨r', hr', hne, hgroup⟩
    obtain ⟨j, hj⟩ := List.mem_iff_getElem?.mp hr'
    exact ⟨j, r', _, fun heq => hne ((hid j r' hj).mpr heq), getElem?_zip_outcomes.mpr ⟨hj, rfl⟩, hgroup⟩

/-- Before the groups are reconciled, an entry is the last one that the task of its resource wrote, or the
one that was there. -/
theorem get?_upsertAll_writes (hnodup : (job.resources.map (·.id)).Nodup)
    (hf : f.Completes (runner.outcomes job rules)) (hi : job.resources[i]? = some r)
    (hrun : (runner.engine job rules).run runner.read r = .completed c) (hopen : ¬ l.history.isSealed) :
    (l.history.upsertAll f.writes).get? r.id kind runner.now.day =
      ((c.history.filter (·.key = ⟨r.id, kind, runner.now.day⟩)).getLast?).or
        (l.history.get? r.id kind runner.now.day) := by
  have hwrites : f.writes.filter (·.key = ⟨r.id, kind, runner.now.day⟩) =
      c.history.filter (·.key = ⟨r.id, kind, runner.now.day⟩) := by
    rw [(hf.filter_writes (runner.owned_outcomes job rules) hnodup).1 i (getElem?_ids hi),
      getElem?_outcomes hi, hrun]
    rfl
  rw [History.get?, History.get?_upsertAll, if_neg hopen, hwrites]
  rfl

section

variable (hnodup : (job.resources.map (·.id)).Nodup) (hf : f.Completes (runner.outcomes job rules))
  (hi : (job.settled runner.now.day f l)[i]? = some (r, .completed c))

include hf hi

omit hi in
theorem outcomes_eq : f.outcomes job.resources = runner.outcomes job rules :=
  FanOut.outcomes_eq_of_lookup hf.arrivals (by simp [outcomes])

theorem getElem?_settled : job.resources[i]? = some r ∧
    (job.reconcile runner.now.day (runner.outcomes job rules)
      (l.history.upsertAll f.writes)).outcomes[i]? = some (.completed c) := by
  rw [Job.settled, List.getElem?_zip_eq_some, outcomes_eq hf] at hi
  exact hi

omit hi in
theorem history_conclude : (job.conclude runner.now.day f l).2.history =
    (job.reconcile runner.now.day (runner.outcomes job rules)
      (l.history.upsertAll f.writes)).history := by
  rw [← outcomes_eq hf]
  rfl

omit hf hi in
theorem isSealed_conclude : (job.conclude runner.now.day f l).2.history.isSealed = l.history.isSealed :=
  Job.conclude_of_upsert (Q := fun h => h.isSealed = l.history.isSealed) runner.now.day
    (fun _ _ hh => History.isSealed_upsert.trans hh) job f l rfl

include hnodup

omit hi in
/-- A resource that is alone keeps its report, and the entries that its task has written. -/
theorem conclude_alone (hr : job.resources[i]? = some r) (halone : ¬ runner.Grouped job rules r) :
    (job.settled runner.now.day f l)[i]? = some (r, (runner.engine job rules).run runner.read r) ∧
      ∀ kind, (job.conclude runner.now.day f l).2.history.get? r.id kind runner.now.day =
        (l.history.upsertAll f.writes).get? r.id kind runner.now.day := by
  rw [← accompanied_iff_grouped hnodup hr] at halone
  obtain ⟨houtcome, hentries⟩ := Job.reconcile_alone (h := l.history.upsertAll f.writes)
    runner.now.day named_outcomes hnodup halone
  constructor
  · rw [Job.settled, outcomes_eq hf, List.getElem?_zip_eq_some, houtcome]
    exact ⟨hr, getElem?_outcomes hr⟩
  · intro kind
    rw [history_conclude hf]
    exact hentries _ (getElem?_ids hr)

omit hi in
/-- The entry of a resource that is alone says what is postponed or proposed of its kind, and else is left. -/
theorem entry_of_alone (hr : job.resources[i]? = some r)
    (hrun : (runner.engine job rules).run runner.read r = .completed c)
    (halone : ¬ runner.Grouped job rules r) (hopen : ¬ l.history.isSealed) (kind : Kind) :
    let after := (job.conclude runner.now.day f l).2.history.get? r.id kind runner.now.day
    let postpones := (runner.engine job rules).Postpones r kind
    (postpones → ∃ x, after = some x ∧ x.status = .postponed) ∧
    (¬ postpones → ∀ a, c.report.actionOf? kind = some a →
      ∃ x, after = some x ∧ x.action = a ∧ x.status = .recommended) ∧
    (¬ postpones → c.report.actionOf? kind = none →
      after = l.history.get? r.id kind runner.now.day) := by
  intro after postpones
  have hafter : after = ((c.history.filter (·.key = ⟨r.id, kind, runner.now.day⟩)).getLast?).or
      (l.history.get? r.id kind runner.now.day) :=
    ((conclude_alone hnodup hf hr halone).2 kind).trans
      (get?_upsertAll_writes hnodup hf hr hrun hopen)
  obtain ⟨hpostponed, hproposed⟩ := Engine.getLast?_written hrun kind
  refine ⟨fun hp => ?_, fun hp a ha => ?_, fun hp hnone => ?_⟩
  · obtain ⟨x, hx, hstatus⟩ := hpostponed hp
    exact ⟨x, hafter.trans (congrArg (Option.or · _) hx), hstatus⟩
  · obtain ⟨x, hx, haction⟩ := (hproposed hp).1 a ha
    exact ⟨x, hafter.trans (congrArg (Option.or · _) hx), haction⟩
  · exact hafter.trans (congrArg (Option.or · _) ((hproposed hp).2 hnone))

omit hi in
theorem inLine_iff_of_alone (hr : job.resources[i]? = some r)
    (hrun : (runner.engine job rules).run runner.read r = .completed c)
    (halone : ¬ runner.Grouped job rules r) (hopen : ¬ l.history.isSealed) (kind : Kind) :
    let after := (job.conclude runner.now.day f l).2.history
    (after.InLine runner.now.day r.id c.report kind ↔
      ¬ runner.Stale job rules l.history r c.report kind) ∧
    (runner.Stale job rules l.history r c.report kind →
      after.get? r.id kind runner.now.day = l.history.get? r.id kind runner.now.day) := by
  intro after
  obtain ⟨hpostponed, hproposed, hleft⟩ := entry_of_alone hnodup hf hr hrun halone hopen kind
  by_cases hpostpones : (runner.engine job rules).Postpones r kind
  · obtain ⟨x, hx, hstatus⟩ := hpostponed hpostpones
    refine ⟨iff_of_true ?_ fun hstale => hstale.allowed hpostpones,
      fun hstale => (hstale.allowed hpostpones).elim⟩
    intro e he hrecommended
    rw [Option.some.inj (hx.symm.trans he), hrecommended] at hstatus
    cases hstatus
  · cases haction : c.report.actionOf? kind with
    | some a =>
      obtain ⟨x, hx, hxa, -⟩ := hproposed hpostpones a haction
      have hfresh : ¬ runner.Stale job rules l.history r c.report kind := by
        intro hstale
        rw [hstale.unproposed] at haction
        cases haction
      refine ⟨iff_of_true ?_ hfresh, fun hstale => (hfresh hstale).elim⟩
      intro e he _
      rw [← Option.some.inj (hx.symm.trans he), hxa, haction, Option.getD_some]
    | none =>
      have hkept := hleft hpostpones haction
      have hnone : (c.report.actionOf? kind).getD .noAction = .noAction := by rw [haction]; rfl
      refine ⟨⟨?_, ?_⟩, fun _ => hkept⟩
      · rintro hinLine ⟨-, -, -, e, he, hstatus, hne⟩
        exact hne ((hinLine e (hkept.trans he) hstatus).trans hnone)
      · intro hfresh e he hstatus
        rw [hnone]
        by_contra hne
        exact hfresh ⟨haction, hpostpones, halone, e, hkept.symm.trans he, hstatus, hne⟩

/-- A resource with completed companions ends with its entries in line. -/
theorem conclude_grouped (hgrouped : runner.Grouped job rules r) (hopen : ¬ l.history.isSealed)
    (kind : Kind) :
    (job.conclude runner.now.day f l).2.history.InLine runner.now.day r.id c.report kind := by
  obtain ⟨hr, hc⟩ := getElem?_settled hf hi
  have hcompleted : ∃ c₀, (runner.engine job rules).run runner.read r = .completed c₀ := by
    obtain ⟨name, hgroup, -⟩ := hgrouped
    cases hrun : (runner.engine job rules).run runner.read r with
    | completed c₀ => exact ⟨c₀, rfl⟩
    | postponed _ _ _ _ => rw [hrun] at hgroup; cases hgroup
    | failed _ _ => rw [hrun] at hgroup; cases hgroup
  obtain ⟨c₀, hrun⟩ := hcompleted
  have hinLine : Job.InLineAt runner.now.day (job.reconcile runner.now.day (runner.outcomes job rules)
      (l.history.upsertAll f.writes)) i r.id :=
    Job.reconcile_accompanied runner.now.day named_outcomes hnodup (by rw [getElem?_outcomes hr, hrun])
      (getElem?_ids hr) (by rwa [History.isSealed_upsertAll])
      ((accompanied_iff_grouped hnodup hr).mpr hgrouped)
  obtain ⟨c', hc', hentries⟩ := hinLine
  rw [hc] at hc'
  cases hc'
  rw [history_conclude hf]
  exact hentries kind

end

/-- After each of any number of runs, whatever the sink refuses: the recommended entries of a completed
resource say what its report says, but for the stale ones, which are left as they were. -/
theorem entries_inLine_iff {l₀ : Ledger α} (hstart : l₀.history.Unheld runner.now.day)
    (hruns : Relation.ReflTransGen Ledger.Ran l₀ l) (hnodup : (job.resources.map (·.id)).Nodup)
    (hrules : job.rules? runner.compiler = .ok rules) (hf : f.Completes (runner.outcomes job rules)) :
    let started := { l with
      events := l.events ++ [.jobStarted job.resources.length runner.concurrency] }
    let ended := (job.conclude runner.now.day f started).2
    ∀ r c, (r, .completed c) ∈ job.settled runner.now.day f started → ∀ kind,
      (ended.history.InLine runner.now.day r.id c.report kind ↔
        ¬ runner.Stale job rules l.history r c.report kind) ∧
      (runner.Stale job rules l.history r c.report kind →
        ended.history.get? r.id kind runner.now.day = l.history.get? r.id kind runner.now.day) := by
  intro started ended r c hmem kind
  obtain ⟨i, hi⟩ := List.mem_iff_getElem?.mp hmem
  have hr := (getElem?_settled hf hi).1
  have hunheld : l.history.Unheld runner.now.day := Ledger.unheld_of_runs hruns hstart
  have hended : ended.history.Unheld runner.now.day :=
    Ledger.unheld_ran (.ended hrules hf) hunheld
  by_cases hsealed : l.history.isSealed
  · -- Nothing of the day was ever written.
    have hbefore := hunheld hsealed r.id kind
    have hafter := hended (isSealed_conclude.trans hsealed) r.id kind
    refine ⟨iff_of_true ?_ ?_, fun _ => hafter.trans hbefore.symm⟩
    · intro e he
      rw [hafter] at he
      cases he
    · rintro ⟨-, -, -, e, he, -⟩
      rw [hbefore] at he
      cases he
  · by_cases hgrouped : runner.Grouped job rules r
    · refine ⟨iff_of_true ?_ fun hstale => hstale.alone hgrouped, fun hstale => (hstale.alone hgrouped).elim⟩
      exact conclude_grouped hnodup hf hi hgrouped hsealed kind
    · have hrun : (runner.engine job rules).run runner.read r = .completed c := by
        have hsame := hi.symm.trans (conclude_alone hnodup hf hr hgrouped).1
        exact (Prod.mk.inj (Option.some.inj hsame)).2.symm
      exact inLine_iff_of_alone (l := started) hnodup hf hr hrun hgrouped hsealed kind

end Runner

/-! Two jobs on the readings of one week: to the settings of the first its resource is idle, to those of the
second it is steadily busy. -/
namespace Retuned

def readings : List (Sample Rat) :=
  (List.range 7).map fun i => ⟨"i-1", "m5.large", 86400 * i, 40, 50, -1, -1, -1⟩

def job (threshold : Rat) : Job Rat :=
  { Lone.job with policy := ⟨[], { Settings.default with activityThreshold := threshold }, []⟩ }

def runner : Runner Rat := { Lone.runner with read := fun _ => .ok ⟨standardColumns, readings⟩ }

def engine (threshold : Rat) : Engine Rat := runner.engine (job threshold) []

theorem fault?_settings : (engine 50).settings.fault? = none ∧ (engine 10).settings.fault? = none := by
  rw [← Option.isNone_iff_eq_none, ← Option.isNone_iff_eq_none]
  decide

theorem rules?_job {threshold : Rat} (h : (engine threshold).settings.fault? = none) :
    (job threshold).rules? runner.compiler = .ok [] := by
  have hvalid : (job threshold).policy.settings.validate = .ok () := by
    rw [Settings.validate, show (job threshold).policy.settings.fault? = none from h]
  rw [Job.rules?, hvalid]
  rfl

theorem stepMinutes_readings (threshold : Rat) :
    (engine threshold).settings.stepMinutes readings = 1440 := by
  have hgaps : Sampling.gaps readings = List.replicate (5 + 1) 86400 := by decide
  rw [Settings.stepMinutes_of_gaps hgaps]
  rfl

theorem validate_readings (threshold : Rat) :
    (engine threshold).validate ⟨standardColumns, readings⟩ = .ok (readings, Lone.shape) := by
  refine Engine.validate_eq_ok_iff.mpr
    ⟨?_, List.mergeSort_of_pairwise (by decide), _, _, rfl, rfl, ?_, rfl⟩
  · show Batch.missing ⟨standardColumns, readings⟩ (Settings.default (α := Rat)).requiredColumns = []
    decide
  · rw [stepMinutes_readings]
    show ¬ Engine.span 1440 (readings.head (by decide)) (readings.getLast (by decide)) < (7 : Int) * 86400
    decide

theorem isIdle_schedule : ((engine 50).settings.schedule readings).isIdle := by
  rw [Settings.isIdle_schedule_iff, Settings.dailyWindows, stepMinutes_readings, ← List.isEmpty_iff]
  decide +kernel

theorem inBand_readings : InBand readings := by
  have hsame : ∀ s ∈ readings, s.cpu = 40 ∧ s.memory = 50 ∧ s.network = -1 ∧ s.iops = -1 := by
    intro s hs
    obtain ⟨i, -, rfl⟩ := List.mem_map.mp hs
    exact ⟨rfl, rfl, rfl, rfl⟩
  refine ⟨fun s hs => ?_, fun s hs => ?_, Or.inl fun s hs => (hsame s hs).2.2.1,
    Or.inl fun s hs => (hsame s hs).2.2.2⟩
  · rw [SteadyLoad, (hsame s hs).1]
    decide
  · rw [SteadyLoad, (hsame s hs).2.1]
    decide

theorem run_idle : ∃ c, (engine 50).run runner.read Lone.resource = .completed c ∧
    c.report.actions = [.shutdown] :=
  ⟨_, Engine.run_of_valid rfl rfl (validate_readings 50), by
    rw [Engine.price, Engine.decide_of_isIdle isIdle_schedule]⟩

theorem run_busy : ∃ c, (engine 10).run runner.read Lone.resource = .completed c ∧
    c.report.actions = [.noAction] := by
  have hdecide : ((engine 10).decide Lone.resource readings Lone.shape).1 = _ :=
    Engine.decide_of_inBand (Settings.minWindowMinutes_lt fault?_settings.2) (by decide)
      (by decide) inBand_readings
  exact ⟨_, Engine.run_of_valid rfl rfl (validate_readings 10), by rw [Engine.price, hdecide]⟩

theorem not_grouped (threshold : Rat) : ¬ runner.Grouped (job threshold) [] Lone.resource := by
  rintro ⟨name, hgroup, -⟩
  unfold Job.group? at hgroup
  split at hgroup <;> cases hgroup

theorem not_postpones (threshold : Rat) (kind : Kind) :
    ¬ (engine threshold).Postpones Lone.resource kind := by
  rintro ⟨p, hp, -⟩
  cases hp

def fanOut (threshold : Rat) : FanOut Rat := .inOrder (runner.outcomes (job threshold) [])

theorem completes_fanOut (threshold : Rat) :
    (fanOut threshold).Completes (runner.outcomes (job threshold) []) :=
  FanOut.completes_inOrder _

def started (l : Ledger Rat) : Ledger Rat := { l with events := l.events ++ [.jobStarted 1 1] }

/-- What a job leaves behind. -/
def ended (threshold : Rat) (l : Ledger Rat) : Ledger Rat :=
  ((job threshold).conclude runner.now.day (fanOut threshold) (started l)).2

def first : Ledger Rat := ended 50 {}

def second : Ledger Rat := ended 10 first

theorem run_job {threshold : Rat} (h : (engine threshold).settings.fault? = none) (l : Ledger Rat) :
    ∃ summary, runner.run (job threshold) l = .ok (summary, ended threshold l) :=
  ⟨_, Runner.run_of_rules (rules?_job h) l⟩

section

variable {threshold : Rat} {c : Completed Rat} {l : Ledger Rat}
  (hrun : (engine threshold).run runner.read Lone.resource = .completed c)

include hrun

theorem settled_eq : (job threshold).settled runner.now.day (fanOut threshold) l =
    [(Lone.resource, .completed c)] := by
  have hfirst := (Runner.conclude_alone (l := l) (i := 0) (by simp [job, Lone.job])
    (completes_fanOut threshold) rfl (not_grouped threshold)).1
  rw [show (runner.engine (job threshold) []).run runner.read Lone.resource = .completed c from hrun]
    at hfirst
  have hlength := congrArg List.length
    ((job threshold).map_fst_settled runner.now.day (fanOut threshold) l)
  rw [List.length_map] at hlength
  obtain ⟨p, hp⟩ := List.length_eq_one_iff.mp hlength
  rw [hp] at hfirst ⊢
  exact congrArg (fun p => [p]) (Option.some.inj hfirst)

theorem records_ended (hsink : l.sink.refusal = fun _ _ _ => none) :
    (ended threshold l).sink.records =
      l.sink.records ++ [((job threshold).resultKey Lone.resource, c.report)] := by
  have hrecords := ((job threshold).conclude_account runner.now.day (fanOut threshold) (started l)).records
  rw [settled_eq hrun] at hrecords
  refine hrecords.trans (congrArg (l.sink.records ++ ·) ?_)
  simp [Job.deliveries, Outcome.delivery?, Sink.taken, started, hsink]

theorem refusal_ended : (ended threshold l).sink.refusal = l.sink.refusal := by
  have hsink := (job threshold).conclude_sink runner.now.day (fanOut threshold) (started l)
  rw [settled_eq hrun] at hsink
  exact (congrArg Sink.refusal hsink).trans Sink.refusal_append

end

theorem refusal_first : first.sink.refusal = fun _ _ _ => none := by
  obtain ⟨c, hrun, -⟩ := run_idle
  exact refusal_ended hrun

theorem open_first : ¬ first.history.isSealed := by
  rw [first, ended, Runner.isSealed_conclude]
  decide

/-- The first job leaves the entry of a shutdown, and no other. -/
theorem entries_first :
    (∃ x, first.history.get? Lone.resource.id .shutdown runner.now.day = some x ∧
      x.action = .shutdown ∧ x.status = .recommended) ∧
    ∀ kind, kind ≠ .shutdown → first.history.get? Lone.resource.id kind runner.now.day = none := by
  obtain ⟨c, hrun, hactions⟩ := run_idle
  have hnodup : ((job 50).resources.map (·.id)).Nodup := by simp [job, Lone.job]
  have hentry := fun kind => Runner.entry_of_alone (l := started {}) (i := 0) hnodup
    (completes_fanOut 50) rfl hrun (not_grouped 50) (by decide) kind
  constructor
  · exact (hentry .shutdown).2.1 (not_postpones 50 .shutdown) .shutdown
      (by rw [Report.actionOf?, hactions]; rfl)
  · intro kind hkind
    refine (hentry kind).2.2 (not_postpones 50 kind) ?_
    rw [Report.actionOf?, hactions]
    cases kind with
    | shutdown => exact (hkind rfl).elim
    | schedule => rfl
    | resize => rfl
    | split => rfl

theorem stale_second {c : Completed Rat} (hactions : c.report.actions = [.noAction]) :
    runner.Stale (job 10) [] first.history Lone.resource c.report .shutdown := by
  obtain ⟨x, hx, haction, hstatus⟩ := entries_first.1
  refine ⟨by rw [Report.actionOf?, hactions]; rfl, not_postpones 10 .shutdown, not_grouped 10, x, hx,
    hstatus, ?_⟩
  rw [haction]
  decide

end Retuned

/-- The sink has the report of a second job that proposes nothing, and the entry still says to shut down. -/
theorem shutdown_entry_left : ∃ summary summary' report e,
    Retuned.runner.run (Retuned.job 50) {} = .ok (summary, Retuned.first) ∧
      Retuned.runner.run (Retuned.job 10) Retuned.first = .ok (summary', Retuned.second) ∧
      Retuned.second.sink.records.getLast? =
        some ((Retuned.job 10).resultKey Lone.resource, report) ∧
      report.actions = [.noAction] ∧
      Retuned.second.history.get? Lone.resource.id .shutdown Retuned.runner.now.day = some e ∧
      e.status = .recommended ∧ e.action = .shutdown := by
  obtain ⟨summary, hfirst⟩ := Retuned.run_job Retuned.fault?_settings.1 {}
  obtain ⟨summary', hsecond⟩ := Retuned.run_job Retuned.fault?_settings.2 Retuned.first
  obtain ⟨c, hrun, hactions⟩ := Retuned.run_busy
  obtain ⟨x, hx, haction, hstatus⟩ := Retuned.entries_first.1
  have hnodup : ((Retuned.job 10).resources.map (·.id)).Nodup := by simp [Retuned.job, Lone.job]
  obtain ⟨-, -, hleft⟩ := Runner.entry_of_alone (l := Retuned.started Retuned.first) (i := 0) hnodup
    (Retuned.completes_fanOut 10) rfl hrun (Retuned.not_grouped 10) Retuned.open_first .shutdown
  refine ⟨summary, summary', c.report, x, hfirst, hsecond, ?_, hactions, ?_, hstatus, haction⟩
  · rw [Retuned.second, Retuned.records_ended hrun Retuned.refusal_first, List.getLast?_concat]
  · exact (hleft (Retuned.not_postpones 10 .shutdown)
      (by rw [Report.actionOf?, hactions]; rfl)).trans hx

theorem entries_inLine_iff_retuned : ∃ c,
    (Lone.resource, .completed c) ∈ (Retuned.job 10).settled Retuned.runner.now.day (Retuned.fanOut 10)
      (Retuned.started Retuned.first) ∧
    Retuned.runner.Stale (Retuned.job 10) [] Retuned.first.history Lone.resource c.report .shutdown ∧
    ¬ Retuned.second.history.InLine Retuned.runner.now.day Lone.resource.id c.report .shutdown ∧
    Retuned.second.history.InLine Retuned.runner.now.day Lone.resource.id c.report .resize := by
  obtain ⟨c, hrun, hactions⟩ := Retuned.run_busy
  have hpair : (Lone.resource, Outcome.completed c) ∈ (Retuned.job 10).settled Retuned.runner.now.day
      (Retuned.fanOut 10) (Retuned.started Retuned.first) := by
    rw [Retuned.settled_eq hrun]
    exact List.mem_singleton.mpr rfl
  have hstale := Retuned.stale_second hactions
  have hruns : Relation.ReflTransGen Ledger.Ran ({} : Ledger Rat) Retuned.first :=
    .single (.ended (Retuned.rules?_job Retuned.fault?_settings.1) (Retuned.completes_fanOut 50))
  have hentries := Runner.entries_inLine_iff (fun hsealed => by cases hsealed) hruns
    (by simp [Retuned.job, Lone.job]) (Retuned.rules?_job Retuned.fault?_settings.2)
    (Retuned.completes_fanOut 10) Lone.resource c hpair
  refine ⟨c, hpair, hstale, fun hinLine => (hentries .shutdown).1.mp hinLine hstale, ?_⟩
  refine (hentries .resize).1.mpr ?_
  rintro ⟨-, -, -, e, he, -⟩
  rw [Retuned.entries_first.2 .resize (by decide)] at he
  cases he

end FleetSizing
