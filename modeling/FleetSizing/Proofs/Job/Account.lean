import FleetSizing.Proofs.Job.Order

/-! The account of a job: what it attempts to deliver, what becomes of every resource, and the numbers that
it reports and counts. -/
namespace FleetSizing

variable {α : Type}

namespace Sink

variable {s : Sink α} {key : ResultKey} {report : Report α}

theorem append_fst : (s.append key report).1 = s.refusal s.attempts key report := by
  unfold append
  cases hrefusal : s.refusal s.attempts key report <;> rfl

@[simp] theorem refusal_append : (s.append key report).2.refusal = s.refusal := by
  unfold append
  split <;> rfl

@[simp] theorem attempts_append : (s.append key report).2.attempts = s.attempts + 1 := by
  unfold append
  split <;> rfl

/-- The deliveries that a sink takes, if they are attempted one after another. -/
def taken (s : Sink α) (ds : List (ResultKey × Report α)) : List (ResultKey × Report α) :=
  (ds.zipIdx s.attempts).filterMap fun (d, n) =>
    if (s.refusal n d.1 d.2).isNone then some d else none

theorem taken_cons {d : ResultKey × Report α} {ds : List (ResultKey × Report α)} :
    s.taken (d :: ds) = (if (s.refusal s.attempts d.1 d.2).isNone then [d] else []) ++
      (s.append d.1 d.2).2.taken ds := by
  simp only [taken, List.zipIdx_cons, List.filterMap_cons, refusal_append, attempts_append]
  split <;> split at * <;> simp_all

/-- A refused delivery counts as an attempt, and leaves those after it as they are. -/
theorem foldl_append (s : Sink α) (ds : List (ResultKey × Report α)) :
    let after := ds.foldl (fun s d => (s.append d.1 d.2).2) s
    after.attempts = s.attempts + ds.length ∧ after.records = s.records ++ s.taken ds := by
  induction ds generalizing s with
  | nil => simp [taken]
  | cons d ds ih =>
    obtain ⟨hattempts, hrecords⟩ := ih (s.append d.1 d.2).2
    constructor
    · rw [List.foldl_cons, hattempts, attempts_append, List.length_cons]
      omega
    · rw [List.foldl_cons, hrecords, taken_cons, ← List.append_assoc]
      congr 1
      unfold append
      cases hrefusal : s.refusal s.attempts d.1 d.2 <;> simp

end Sink

namespace Outcome

/-- Every outcome is of one sort. -/
theorem countP_sorts (os : List (Outcome α)) :
    os.countP isCompleted + os.countP isPostponed + os.countP isFailed = os.length := by
  induction os with
  | nil => rfl
  | cons o os ih =>
    cases o <;> simp [List.countP_cons, isCompleted, isPostponed, isFailed] <;> omega

theorem foldl_countIn (os : List (Outcome α)) (c : Counters) :
    (os.foldl countIn c).processed = c.processed + os.countP isCompleted ∧
      (os.foldl countIn c).postponed = c.postponed + os.countP isPostponed ∧
      (os.foldl countIn c).failed = c.failed + os.countP isFailed := by
  induction os generalizing c with
  | nil => exact ⟨rfl, rfl, rfl⟩
  | cons o os ih =>
    obtain ⟨hprocessed, hpostponed, hfailed⟩ := ih (countIn c o)
    rw [List.foldl_cons, hprocessed, hpostponed, hfailed]
    cases o <;> simp [List.countP_cons, countIn, isCompleted, isPostponed, isFailed,
      Counters.addProcessed, Counters.addPostponed, Counters.addFailed, Counters.setClusters] <;> omega

theorem isPostponed_iff {o : Outcome α} : o.isPostponed ↔ o.delivery? = none := by
  cases o <;> simp [isPostponed, delivery?]

end Outcome

namespace JobStatus

theorem ofCounts_iff {total completed postponed : Nat} (h : completed + postponed ≤ total) :
    (ofCounts total completed postponed = .ok ↔ 0 < completed) ∧
      (ofCounts total completed postponed = .postponed ↔ 0 < total ∧ postponed = total) ∧
      (ofCounts total completed postponed = .error ↔
        completed = 0 ∧ ¬ (0 < total ∧ postponed = total)) := by
  unfold ofCounts
  split
  · refine ⟨by simpa, ?_, ?_⟩ <;> simp <;> omega
  · split
    · refine ⟨?_, ?_, ?_⟩ <;> simp <;> omega
    · refine ⟨?_, ?_, ?_⟩ <;> simp <;> omega

end JobStatus

/-- Every resource is counted once, and the counts decide on the status. -/
theorem Summary.ofOutcomes_shared (job : String) (os : List (Outcome α)) :
    let s := Summary.ofOutcomes job os
    s.completed + s.postponed + s.failed = s.total ∧ (s.status = .ok ↔ 0 < s.completed) ∧
      (s.status = .postponed ↔ 0 < s.total ∧ s.postponed = s.total) ∧
      (s.status = .error ↔ s.completed = 0 ∧ ¬ (0 < s.total ∧ s.postponed = s.total)) :=
  have hsorts := Outcome.countP_sorts os
  ⟨hsorts, JobStatus.ofCounts_iff (Nat.le.intro hsorts)⟩

namespace Job

variable {job : Job α} {pairs : List (Resource × Outcome α)} {sink : Sink α} {r : Resource}
  {o : Outcome α} {i : Nat}

/-- Why the report of a place is refused. The sink was asked once for every place before that delivers. -/
def refusal? (job : Job α) (sink : Sink α) (pairs : List (Resource × Outcome α)) (i : Nat) :
    Option String := do
  let (r, o) ← pairs[i]?
  let report ← o.delivery?
  sink.refusal (sink.attempts + (job.deliveries (pairs.take i)).length) (job.resultKey r) report

/-- The outcomes once the sink has answered; a resource whose report is refused has failed. -/
def answered (job : Job α) (sink : Sink α) (pairs : List (Resource × Outcome α)) : List (Outcome α) :=
  pairs.mapIdx fun i (r, o) =>
    match job.refusal? sink pairs i with
    | some reason => .failed r.id ⟨.generateReports, .sink reason⟩
    | none => o

theorem refusal?_zero : job.refusal? sink ((r, o) :: pairs) 0 =
    o.delivery?.bind (sink.refusal sink.attempts (job.resultKey r)) := by
  simp [refusal?, deliveries]

theorem refusal?_succ_of_none (h : o.delivery? = none) :
    job.refusal? sink ((r, o) :: pairs) (i + 1) = job.refusal? sink pairs i := by
  simp [refusal?, deliveries, h]

theorem refusal?_succ_of_some {report : Report α} (h : o.delivery? = some report) :
    job.refusal? sink ((r, o) :: pairs) (i + 1) =
      job.refusal? (sink.append (job.resultKey r) report).2 pairs i := by
  simp [refusal?, deliveries, h, Nat.add_assoc, Nat.add_comm 1]

theorem deliver_outcomes (job : Job α) (pairs : List (Resource × Outcome α)) (sink : Sink α) :
    (job.deliver pairs sink).1 = job.answered sink pairs := by
  induction pairs generalizing sink with
  | nil => rfl
  | cons q qs ih =>
    obtain ⟨r, o⟩ := q
    rw [answered, List.mapIdx_cons, refusal?_zero]
    unfold deliver
    cases hdelivery : o.delivery? with
    | none =>
      simp only [refusal?_succ_of_none hdelivery]
      exact congrArg (o :: ·) (ih sink)
    | some report =>
      have htail := ih (sink.append (job.resultKey r) report).2
      simp only [refusal?_succ_of_some hdelivery]
      rw [answered] at htail
      rw [← htail, Option.bind_some, ← Sink.append_fst]
      cases (sink.append (job.resultKey r) report).1 <;> rfl

theorem answered_eq_map (job : Job α) (sink : Sink α) (pairs : List (Resource × Outcome α)) :
    job.answered sink pairs = pairs.zipIdx.map fun (p, i) =>
      match job.refusal? sink pairs i with
      | some reason => .failed p.1.id ⟨.generateReports, .sink reason⟩
      | none => p.2 :=
  List.mapIdx_eq_zipIdx_map

/-- A completed resource stays so if its report is not refused. -/
theorem countP_isCompleted_answered : (job.answered sink pairs).countP (·.isCompleted) =
    pairs.zipIdx.countP fun (p, i) => p.2.isCompleted && (job.refusal? sink pairs i).isNone := by
  rw [answered_eq_map, List.countP_map]
  congr 1
  funext ⟨p, i⟩
  cases hrefusal : job.refusal? sink pairs i <;> simp [hrefusal, Outcome.isCompleted]

theorem refusal?_eq_none_of_isPostponed {p : Resource × Outcome α} (hi : pairs[i]? = some p)
    (h : p.2.isPostponed) : job.refusal? sink pairs i = none := by
  simp [refusal?, hi, Outcome.isPostponed_iff.mp h]

/-- A resource is postponed at the end if it was before; there is nothing to refuse. -/
theorem countP_isPostponed_answered : (job.answered sink pairs).countP (·.isPostponed) =
    pairs.countP (·.2.isPostponed) := by
  rw [answered_eq_map, List.countP_map, ← List.zipIdx_map_fst 0 pairs, List.countP_map]
  simp only [List.zipIdx_map_fst]
  apply List.countP_congr
  rintro ⟨p, i⟩ hp
  have hi : pairs[i]? = some p := List.mem_zipIdx_iff_getElem?.mp hp
  cases hrefusal : job.refusal? sink pairs i with
  | none => simp [hrefusal]
  | some reason =>
    have hsent : ¬ p.2.isPostponed := by
      intro hpostponed
      rw [refusal?_eq_none_of_isPostponed hi hpostponed] at hrefusal
      cases hrefusal
    simpa [hrefusal, Outcome.isPostponed] using hsent

/-- One attempt for every resource that is not postponed. -/
theorem length_deliveries :
    (job.deliveries pairs).length = pairs.countP (!·.2.isPostponed) := by
  induction pairs with
  | nil => rfl
  | cons p ps ih =>
    obtain ⟨r, o⟩ := p
    rw [deliveries] at ih ⊢
    cases hdelivery : o.delivery? with
    | none =>
      have hpostponed : o.isPostponed := Outcome.isPostponed_iff.mpr hdelivery
      simp [hdelivery, hpostponed, ih]
    | some report =>
      have hsent : ¬ o.isPostponed := by simp [Outcome.isPostponed_iff, hdelivery]
      simp [hdelivery, hsent, ih]

section

variable [Scalar α]

theorem length_reconcileGroup (day : Day) (s : Reconciliation α) (group : String × List Nat) :
    (reconcileGroup day s group).outcomes.length = s.outcomes.length :=
  List.foldlRecOn (motive := fun os => List.length os = s.outcomes.length) _ _ rfl
    fun _ hlength _ _ => (List.length_modify ..).trans hlength

theorem length_outcomes_reconcile (job : Job α) (day : Day) (outcomes : List (Outcome α))
    (h : History α) : (job.reconcile day outcomes h).outcomes.length = outcomes.length :=
  List.foldlRecOn (motive := fun s => (Reconciliation.outcomes s).length = outcomes.length) _
    (reconcileGroup day) rfl fun s hlength g _ => (length_reconcileGroup day s g).trans hlength

theorem map_fst_settled (job : Job α) (day : Day) (f : FanOut α) (l : Ledger α) :
    (job.settled day f l).map (·.1) = job.resources := by
  apply List.map_fst_zip
  rw [length_outcomes_reconcile]
  simp [FanOut.outcomes]

end

/-- What a job is answerable for, from the reconciled outcomes of its resources to its numbers. -/
structure Account (job : Job α) (pairs : List (Resource × Outcome α)) (l : Ledger α)
    (summary : Summary) (ended : Ledger α) : Prop where
  resources : pairs.map (·.1) = job.resources
  sink : ended.sink = (job.deliveries pairs).foldl (fun s d => (s.append d.1 d.2).2) l.sink
  attempts : ended.sink.attempts = l.sink.attempts + pairs.countP (!·.2.isPostponed)
  records : ended.sink.records = l.sink.records ++ l.sink.taken (job.deliveries pairs)
  events : ∃ reconciled, ended.events = l.events ++ reconciled ++
    (job.answered l.sink pairs).map Outcome.event ++
      [.jobFinished summary.status.name summary.completed summary.postponed summary.failed]
  total : summary.total = job.resources.length
  shared : summary.completed + summary.postponed + summary.failed = summary.total
  completed : summary.completed = pairs.zipIdx.countP fun (p, i) =>
    p.2.isCompleted && (job.refusal? l.sink pairs i).isNone
  postponed : summary.postponed = pairs.countP (·.2.isPostponed)
  status_ok : summary.status = .ok ↔ 0 < summary.completed
  status_postponed : summary.status = .postponed ↔ 0 < summary.total ∧ summary.postponed = summary.total
  status_error : summary.status = .error ↔
    summary.completed = 0 ∧ ¬ (0 < summary.total ∧ summary.postponed = summary.total)
  counted : ended.counters.processed = l.counters.processed + summary.completed ∧
    ended.counters.postponed = l.counters.postponed + summary.postponed ∧
    ended.counters.failed = l.counters.failed + summary.failed

variable [Scalar α]

theorem conclude_account (job : Job α) (day : Day) (f : FanOut α) (l : Ledger α) :
    job.Account (job.settled day f l) l (job.conclude day f l).1 (job.conclude day f l).2 := by
  have hresources := job.map_fst_settled day f l
  have hsink := job.conclude_sink day f l
  obtain ⟨hattempts, hrecords⟩ := l.sink.foldl_append (job.deliveries (job.settled day f l))
  have hanswered : (job.deliver (job.settled day f l) l.sink).1 =
      job.answered l.sink (job.settled day f l) := deliver_outcomes ..
  have hlength : (job.answered l.sink (job.settled day f l)).length = job.resources.length := by
    rw [answered, List.length_mapIdx, ← hresources, List.length_map]
  have hsummary : (job.conclude day f l).1 =
      Summary.ofOutcomes job.id (job.answered l.sink (job.settled day f l)) :=
    congrArg (Summary.ofOutcomes job.id) hanswered
  have hcounters : (job.conclude day f l).2.counters =
      (job.answered l.sink (job.settled day f l)).foldl Outcome.countIn l.counters :=
    congrArg (List.foldl Outcome.countIn l.counters) hanswered
  have hevents : ∃ reconciled, (job.conclude day f l).2.events = l.events ++ reconciled ++
      (job.answered l.sink (job.settled day f l)).map Outcome.event ++
        [.jobFinished (job.conclude day f l).1.status.name (job.conclude day f l).1.completed
          (job.conclude day f l).1.postponed (job.conclude day f l).1.failed] :=
    ⟨_, congrArg (fun os => _ ++ _ ++ List.map Outcome.event os ++ _) hanswered⟩
  obtain ⟨hshared, hok, hpostponed, herror⟩ :=
    Summary.ofOutcomes_shared job.id (job.answered l.sink (job.settled day f l))
  rw [← hsummary] at hshared hok hpostponed herror
  refine ⟨hresources, hsink, ?_, ?_, hevents, ?_, hshared, ?_, ?_, hok, hpostponed, herror, ?_⟩
  · rw [hsink, hattempts, length_deliveries]
  · rw [hsink, hrecords]
  · rw [hsummary]
    exact hlength
  · rw [hsummary]
    exact countP_isCompleted_answered
  · rw [hsummary]
    exact countP_isPostponed_answered
  · rw [hcounters, hsummary]
    exact Outcome.foldl_countIn _ _

end Job

namespace Rule

theorem mapM_compile_error_iff {rules : List Rule} {compiler : Pattern.Compiler} :
    (∃ cause, RuleSet.compile rules compiler = .error cause) ↔
      ∃ rule ∈ rules, ∃ cause, rule.compile compiler = .error cause := by
  induction rules with
  | nil => simp [RuleSet.compile, pure, Except.pure]
  | cons rule rules ih =>
    rw [RuleSet.compile] at ih ⊢
    rw [List.mapM_cons]
    cases hrule : rule.compile compiler with
    | error cause => simp [hrule, bind, Except.bind]
    | ok compiled =>
      have hnone : ¬ ∃ cause, rule.compile compiler = .error cause := by simp [hrule]
      simp only [List.exists_mem_cons_iff, hnone, false_or, ← ih]
      cases List.mapM (Rule.compile · compiler) rules <;> simp [bind, Except.bind, pure, Except.pure]

end Rule

namespace Runner

variable [Scalar α]

/-- What a run leaves behind; a job that does not start leaves everything as it is. -/
def after (runner : Runner α) (job : Job α) (l : Ledger α) : Ledger α :=
  match runner.run job l with
  | .ok (_, ended) => ended
  | .error _ => l

theorem run_of_rules {runner : Runner α} {job : Job α} {rules : RuleSet} (h : job.rules? runner.compiler = .ok rules)
    (l : Ledger α) : runner.run job l =
      .ok (job.conclude runner.now.day (.inOrder (runner.outcomes job rules))
        { l with events := l.events ++ [.jobStarted job.resources.length runner.concurrency] }) := by
  rw [run, h]
  rfl

theorem run_of_fault {runner : Runner α} {job : Job α} {fault : JobFault}
    (h : job.rules? runner.compiler = .error fault) (l : Ledger α) : runner.run job l = .error fault := by
  rw [run, h]
  rfl

theorem rules?_error_iff {job : Job α} {compiler : Pattern.Compiler} :
    (∃ fault, job.rules? compiler = .error fault) ↔
      (∃ cause, job.policy.settings.validate = .error cause) ∨
        ∃ rule ∈ job.policy.rules, ∃ cause, rule.compile compiler = .error cause := by
  rw [← Rule.mapM_compile_error_iff, Job.rules?]
  cases job.policy.settings.validate with
  | error cause => simp
  | ok _ => cases RuleSet.compile job.policy.rules compiler <;> simp [Except.mapError]

/-- A job fails only before it starts, on its settings or its rules. Once started it attempts one delivery
for every resource that is not postponed, whatever the sink refuses, and accounts for all of them. That
holds in whatever order the tasks end, and also of tasks that do not. -/
theorem run_account (runner : Runner α) (job : Job α) (l : Ledger α) :
    ((∃ fault, runner.run job l = .error fault) ↔
      (∃ cause, job.policy.settings.validate = .error cause) ∨
        ∃ rule ∈ job.policy.rules, ∃ cause, rule.compile runner.compiler = .error cause) ∧
    (∀ fault, runner.run job l = .error fault → runner.after job l = l ∧
      ∀ read, ({ runner with read } : Runner α).run job l = .error fault) ∧
    ∀ summary ended, runner.run job l = .ok (summary, ended) →
      ∃ rules, job.rules? runner.compiler = .ok rules ∧
      let started := { l with
        events := l.events ++ [.jobStarted job.resources.length runner.concurrency] }
      let serial := FanOut.inOrder (runner.outcomes job rules)
      (summary, ended) = job.conclude runner.now.day serial started ∧
      ∀ f, job.Account (job.settled runner.now.day f started) started
        (job.conclude runner.now.day f started).1 (job.conclude runner.now.day f started).2 := by
  have hfails : (∃ fault, runner.run job l = .error fault) ↔
      ∃ fault, job.rules? runner.compiler = .error fault := by
    cases hrules : job.rules? runner.compiler with
    | error fault => simp [run_of_fault hrules]
    | ok rules => simp [run_of_rules hrules]
  refine ⟨hfails.trans rules?_error_iff, ?_, ?_⟩
  · intro fault hrun
    obtain ⟨fault', hrules⟩ := hfails.mp ⟨fault, hrun⟩
    rw [run_of_fault hrules] at hrun
    cases hrun
    constructor
    · rw [after, run_of_fault hrules]
    · intro read
      have hrules' : job.rules? ({ runner with read } : Runner α).compiler = .error fault := hrules
      exact run_of_fault hrules' l
  · intro summary ended hrun
    cases hrules : job.rules? runner.compiler with
    | error fault =>
      rw [run_of_fault hrules] at hrun
      cases hrun
    | ok rules =>
      rw [run_of_rules hrules] at hrun
      exact ⟨rules, rfl, (Except.ok.inj hrun).symm, fun f => job.conclude_account _ f _⟩

end Runner

end FleetSizing
