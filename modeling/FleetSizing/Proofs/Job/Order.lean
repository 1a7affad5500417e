import FleetSizing.Proofs.History.Writes
import FleetSizing.Proofs.Job.Barrier
import FleetSizing.Proofs.Job.Tasks
import Mathlib.Data.List.Induction

/-! A job does not depend on the order in which its tasks write history and end. -/
namespace FleetSizing

variable {α : Type} {outcomes : List (Outcome α)} {f : FanOut α} {i : Nat} {o : Outcome α}

namespace FanOut

/-- Every outcome has arrived in its place, and the entries of each task were written in order,
whatever the other tasks wrote in between. -/
structure Completes (outcomes : List (Outcome α)) (f : FanOut α) : Prop where
  arrivals : ∀ i, f.arrivals.lookup i = outcomes[i]?
  writes : ∃ written : List (Nat × Entry α), f.writes = written.map (·.2) ∧
    ∀ i, (written.filter (·.1 = i)).map (·.2) = (outcomes[i]?.map Outcome.history).getD []

theorem filter_zipIdx_history (outcomes : List (Outcome α)) (i : Nat) :
    ((outcomes.zipIdx.flatMap fun (o, j) => o.history.map (j, ·)).filter (·.1 = i)).map (·.2) =
      (outcomes[i]?.map Outcome.history).getD [] := by
  induction outcomes using List.reverseRecOn with
  | nil => rfl
  | append_singleton os o ih =>
    rw [List.zipIdx_append, List.flatMap_append, List.filter_append, List.map_append, ih]
    rcases Nat.lt_trichotomy i os.length with hlt | rfl | hgt
    · simp [List.filter_map, Function.comp_def, List.getElem?_append_left hlt, Nat.ne_of_gt hlt]
    · simp [List.filter_map, Function.comp_def]
    · have hnone : (os ++ [o])[i]? = none := List.getElem?_eq_none (by simp; omega)
      simp [List.filter_map, Function.comp_def, hnone, Nat.ne_of_lt hgt, Nat.le_of_lt hgt]

/-- Tasks that run one after another. -/
theorem completes_inOrder (outcomes : List (Outcome α)) : (inOrder outcomes).Completes outcomes := by
  refine ⟨fun i => lookup_mapIdx outcomes 0 i,
    outcomes.zipIdx.flatMap fun (o, i) => o.history.map (i, ·), ?_, filter_zipIdx_history outcomes⟩
  rw [List.map_flatMap]
  simp only [List.map_map, Function.comp_def, List.map_id']
  have hfst : (outcomes.zipIdx.map Prod.fst).flatMap Outcome.history =
      outcomes.zipIdx.flatMap fun a => a.1.history := List.flatMap_map ..
  rw [← hfst, List.zipIdx_map_fst]
  rfl

end FanOut

namespace Pool

variable {p : Pool α} {limit : Nat}

theorem Consistent.lookup_arrivals (hp : p.Consistent) (hdone : p.Done) (i : Nat) :
    p.arrivals.lookup i = (p.tasks[i]?).map (·.outcome) := by
  cases harrival : p.arrivals.lookup i with
  | some o =>
    obtain ⟨before, after, harrivals, -⟩ := List.lookup_eq_some_iff.mp harrival
    have hmem : (i, o) ∈ p.arrivals := by simp [harrivals]
    rw [(hp.arrived i o).mp hmem, Option.map_some]
  | none =>
    cases htask : p.tasks[i]? with
    | none => rfl
    | some t =>
      have hjoined := Task.eq_of_isJoined (hdone t (List.mem_of_getElem? htask))
      rw [hjoined] at htask
      have hne := List.lookup_eq_none_iff.mp harrival _ ((hp.arrived i t.outcome).mpr htask)
      simp at hne

theorem completes_of_done (h : Reaches limit (start outcomes) p) (hdone : p.Done) :
    p.fanOut.Completes outcomes := by
  have hp := consistent_reaches h (consistent_start outcomes)
  have htasks : p.tasks.map (·.outcome) = outcomes := by
    rw [outcomes_reaches h, start, List.map_map]
    simp [Function.comp_def]
  refine ⟨fun i => ?_, p.writes, rfl, fun i => ?_⟩
  · rw [← htasks, List.getElem?_map]
    exact hp.lookup_arrivals hdone i
  · rw [← htasks, List.getElem?_map]
    show p.written i = _
    cases htask : p.tasks[i]? with
    | none => exact hp.unwritten i htask
    | some t =>
      have hwritten := hp.written i t htask
      have hleft : t.left = [] := by
        rw [Task.eq_of_isJoined (hdone t (List.mem_of_getElem? htask))]
        rfl
      rw [hleft, List.append_nil] at hwritten
      exact hwritten

end Pool

namespace FanOut

variable {rs : List Resource} {k : EntryKey}

/-- Tasks write under the names of their own resources. -/
def Owned (rs : List Resource) (outcomes : List (Outcome α)) : Prop :=
  ∀ (i : Nat) (o : Outcome α), outcomes[i]? = some o → ∀ e ∈ o.history,
    (rs.map (·.id))[i]? = some e.resource

theorem Completes.filter_writes (h : f.Completes outcomes) (howned : Owned rs outcomes)
    (hnodup : (rs.map (·.id)).Nodup) :
    (∀ i : Nat, (rs.map (·.id))[i]? = some k.resource → f.writes.filter (·.key = k) =
      ((outcomes[i]?.map Outcome.history).getD []).filter (·.key = k)) ∧
    ((∀ i : Nat, (rs.map (·.id))[i]? ≠ some k.resource) → f.writes.filter (·.key = k) = []) := by
  obtain ⟨written, hwrites, hplaces⟩ := h.writes
  have howner : ∀ w ∈ written, (rs.map (·.id))[w.1]? = some w.2.resource := by
    intro w hw
    have hmem : w.2 ∈ (written.filter (·.1 = w.1)).map (·.2) :=
      List.mem_map.mpr ⟨w, List.mem_filter.mpr ⟨hw, by simp⟩, rfl⟩
    rw [hplaces] at hmem
    cases ho : outcomes[w.1]? with
    | none => simp [ho] at hmem
    | some o =>
      rw [ho] at hmem
      exact howned w.1 o ho w.2 hmem
  constructor
  · intro i hi
    have hsame : ∀ w ∈ written, decide (w.2.key = k) = (decide (w.2.key = k) && decide (w.1 = i)) := by
      intro w hw
      by_cases hkey : w.2.key = k
      · have hresource : w.2.resource = k.resource := congrArg EntryKey.resource hkey
        have hplace : (rs.map (·.id))[i]? = (rs.map (·.id))[w.1]? := by
          rw [hi, howner w hw, hresource]
        have heq : w.1 = i :=
          ((List.getElem?_inj (List.getElem?_eq_some_iff.mp hi).1 hnodup).mp hplace).symm
        simp [heq]
      · simp [hkey]
    rw [hwrites, ← hplaces, List.filter_map, List.filter_map, List.filter_filter]
    exact congrArg _ (List.filter_congr hsame)
  · intro hnone
    rw [List.filter_eq_nil_iff]
    intro e he
    rw [hwrites] at he
    obtain ⟨w, hw, rfl⟩ := List.mem_map.mp he
    rw [decide_eq_true_eq]
    intro hkey
    have hresource : w.2.resource = k.resource := congrArg EntryKey.resource hkey
    exact hnone w.1 (hresource ▸ howner w hw)

/-- Whatever tasks of different resources wrote in between, each key was written to in the same order. -/
theorem Completes.filter_writes_eq {g : FanOut α} (hf : f.Completes outcomes)
    (hg : g.Completes outcomes) (howned : Owned rs outcomes) (hnodup : (rs.map (·.id)).Nodup)
    (k : EntryKey) : f.writes.filter (·.key = k) = g.writes.filter (·.key = k) := by
  by_cases hplace : ∃ i : Nat, (rs.map (·.id))[i]? = some k.resource
  · obtain ⟨i, hi⟩ := hplace
    rw [(hf.filter_writes howned hnodup).1 i hi, (hg.filter_writes howned hnodup).1 i hi]
  · have hnone : ∀ i : Nat, (rs.map (·.id))[i]? ≠ some k.resource := fun i hi => hplace ⟨i, hi⟩
    rw [(hf.filter_writes howned hnodup).2 hnone, (hg.filter_writes howned hnodup).2 hnone]

end FanOut

namespace Job

variable [Scalar α] {h h' : History α} {day : Day}

section

variable {R : History α → History α → Prop}
  (hsync : ∀ h h' day r, R h h' → R (Group.syncHistory day h r) (Group.syncHistory day h' r))

include hsync

theorem reconcileGroup_rel {s s' : Reconciliation α} (houtcomes : s.outcomes = s'.outcomes)
    (hevents : s.events = s'.events) (hhistory : R s.history s'.history)
    (group : String × List Nat) :
    (reconcileGroup day s group).outcomes = (reconcileGroup day s' group).outcomes ∧
      (reconcileGroup day s group).events = (reconcileGroup day s' group).events ∧
      R (reconcileGroup day s group).history (reconcileGroup day s' group).history := by
  have hfold : ∀ (reports : List (Report α)) g g', R g g' →
      R (reports.foldl (Group.syncHistory day) g) (reports.foldl (Group.syncHistory day) g') := by
    intro reports
    induction reports with
    | nil => exact fun _ _ hR => hR
    | cons r reports ih => exact fun g g' hR => ih _ _ (hsync g g' day r hR)
  unfold reconcileGroup
  rw [houtcomes, hevents]
  exact ⟨rfl, rfl, hfold _ _ _ hhistory⟩

theorem reconcile_rel (job : Job α) (day : Day) (outcomes : List (Outcome α)) (hR : R h h') :
    (job.reconcile day outcomes h).outcomes = (job.reconcile day outcomes h').outcomes ∧
      (job.reconcile day outcomes h).events = (job.reconcile day outcomes h').events ∧
      R (job.reconcile day outcomes h).history (job.reconcile day outcomes h').history := by
  unfold reconcile
  generalize (job.groups outcomes).filter _ = groups
  have hrun : ∀ s s' : Reconciliation α, s.outcomes = s'.outcomes → s.events = s'.events →
      R s.history s'.history →
      (groups.foldl (reconcileGroup day) s).outcomes = (groups.foldl (reconcileGroup day) s').outcomes ∧
        (groups.foldl (reconcileGroup day) s).events = (groups.foldl (reconcileGroup day) s').events ∧
        R (groups.foldl (reconcileGroup day) s).history
          (groups.foldl (reconcileGroup day) s').history := by
    induction groups with
    | nil => exact fun _ _ houtcomes hevents hhistory => ⟨houtcomes, hevents, hhistory⟩
    | cons group groups ih =>
      intro s s' houtcomes hevents hhistory
      obtain ⟨houtcomes', hevents', hhistory'⟩ :=
        reconcileGroup_rel hsync houtcomes hevents hhistory group
      exact ih _ _ houtcomes' hevents' hhistory'
  exact hrun _ _ rfl rfl hR

end

/-- What reconciliation makes of the outcomes does not depend on the history, which only follows. -/
theorem reconcile_outcomes_eq (job : Job α) (day : Day) (outcomes : List (Outcome α))
    (h h' : History α) :
    (job.reconcile day outcomes h).outcomes = (job.reconcile day outcomes h').outcomes ∧
      (job.reconcile day outcomes h).events = (job.reconcile day outcomes h').events := by
  have hany : ∀ (g g' : History α) (day : Day) (r : Report α), True → True := fun _ _ _ _ _ => trivial
  obtain ⟨houtcomes, hevents, -⟩ := job.reconcile_rel (R := fun _ _ => True) hany day outcomes trivial
  exact ⟨houtcomes, hevents⟩

omit [Scalar α] in
/-- What a sink is given, in the order of the resources; nothing for a postponed one. -/
def deliveries (job : Job α) (pairs : List (Resource × Outcome α)) : List (ResultKey × Report α) :=
  pairs.filterMap fun (r, o) => o.delivery?.map (job.resultKey r, ·)

omit [Scalar α] in
theorem deliver_sink (job : Job α) (pairs : List (Resource × Outcome α)) (sink : Sink α) :
    (job.deliver pairs sink).2 =
      (job.deliveries pairs).foldl (fun s d => (s.append d.1 d.2).2) sink := by
  induction pairs generalizing sink with
  | nil => rfl
  | cons q qs ih =>
    obtain ⟨r, o⟩ := q
    unfold deliver
    cases hdelivery : o.delivery? with
    | none => simpa [deliveries, hdelivery] using ih sink
    | some report =>
      have htail := ih (sink.append (job.resultKey r) report).2
      simp only [deliveries, List.filterMap_cons, hdelivery, Option.map_some, List.foldl_cons] at htail ⊢
      rw [← htail]
      cases (sink.append (job.resultKey r) report).1 <;> rfl

omit [Scalar α] in
theorem keys_deliveries_sublist (job : Job α) (rs : List Resource) (outcomes : List (Outcome α)) :
    ((job.deliveries (rs.zip outcomes)).map (·.1)).Sublist (rs.map job.resultKey) := by
  induction rs generalizing outcomes with
  | nil => simp [deliveries]
  | cons r rs ih =>
    cases outcomes with
    | nil => simp [deliveries]
    | cons o outcomes =>
      cases hdelivery : o.delivery? with
      | none => simpa [deliveries, hdelivery] using (ih outcomes).cons (job.resultKey r)
      | some report => simpa [deliveries, hdelivery] using (ih outcomes)

/-- The resources of a job with their outcomes, once the groups are reconciled. -/
def settled (job : Job α) (day : Day) (f : FanOut α) (l : Ledger α) : List (Resource × Outcome α) :=
  job.resources.zip
    (job.reconcile day (f.outcomes job.resources) (l.history.upsertAll f.writes)).outcomes

theorem conclude_sink (job : Job α) (day : Day) (f : FanOut α) (l : Ledger α) :
    (job.conclude day f l).2.sink =
      (job.deliveries (job.settled day f l)).foldl (fun s d => (s.append d.1 d.2).2) l.sink :=
  deliver_sink job (job.settled day f l) l.sink

/-- Of two ways in which the tasks may have come to their end, the same follows. -/
theorem conclude_eq (job : Job α) (day : Day) {f g : FanOut α} {outcomes : List (Outcome α)}
    (hf : f.Completes outcomes) (hg : g.Completes outcomes)
    (hlen : outcomes.length = job.resources.length) (l : Ledger α) :
    job.settled day f l = job.settled day g l ∧
      (job.conclude day f l).1 = (job.conclude day g l).1 ∧
      (job.conclude day f l).2.counters = (job.conclude day g l).2.counters ∧
      (job.conclude day f l).2.events = (job.conclude day g l).2.events ∧
      ((l.history.upsertAll f.writes).Same (l.history.upsertAll g.writes) →
        (job.conclude day f l).2.history.Same (job.conclude day g l).2.history) := by
  obtain ⟨houtcomes, hevents⟩ := job.reconcile_outcomes_eq day outcomes
    (l.history.upsertAll f.writes) (l.history.upsertAll g.writes)
  unfold settled conclude
  simp only [FanOut.outcomes_eq_of_lookup hf.arrivals hlen, FanOut.outcomes_eq_of_lookup hg.arrivals hlen,
    houtcomes, hevents, true_and]
  exact fun hsame =>
    (job.reconcile_rel (fun _ _ day r hs => hs.syncHistory day r) day outcomes hsame).2.2

end Job

namespace Runner

variable [Scalar α]

theorem owned_outcomes (runner : Runner α) (job : Job α) (rules : RuleSet) :
    FanOut.Owned job.resources (runner.outcomes job rules) := by
  intro i o ho e he
  rw [outcomes, List.getElem?_map, Option.map_eq_some_iff] at ho
  obtain ⟨r, hr, rfl⟩ := ho
  rw [List.getElem?_map, hr, Option.map_some, Engine.resource_of_mem_history he]

/-- From wherever the tasks of a job are, they can all end; and however they ended, the sink is given the
same reports in the order of the resources, and all counts are the same. So is the history where no
resource is listed twice. -/
theorem run_any_order (runner : Runner α) (job : Job α) {rules : RuleSet}
    (hrules : job.rules? runner.compiler = .ok rules) (l : Ledger α) :
    let tasks := Pool.start (runner.outcomes job rules)
    let started := { l with
      events := l.events ++ [.jobStarted job.resources.length runner.concurrency] }
    ∃ (summary : Summary) (ended : Ledger α) (received : List (ResultKey × Report α)),
      runner.run job l = .ok (summary, ended) ∧
      (received.map (·.1)).Sublist (job.resources.map job.resultKey) ∧
      ∀ limit, 0 < limit → ∀ p, Pool.Reaches limit tasks p →
        (∃ q, Pool.Reaches limit p q ∧ q.Done) ∧
        (p.Done →
          let concluded := job.conclude runner.now.day p.fanOut started
          job.deliveries (job.settled runner.now.day p.fanOut started) = received ∧
          concluded.2.sink = received.foldl (fun s d => (s.append d.1 d.2).2) l.sink ∧
          concluded.1 = summary ∧ concluded.2.counters = ended.counters ∧
          concluded.2.events = ended.events ∧
          ((job.resources.map (·.id)).Nodup → concluded.2.history.Same ended.history ∧
            concluded.2.history.entries = ended.history.entries)) := by
  intro tasks started
  have hlen : (runner.outcomes job rules).length = job.resources.length := by simp [outcomes]
  have hserial := FanOut.completes_inOrder (runner.outcomes job rules)
  refine ⟨_, _, job.deliveries (job.settled runner.now.day (.inOrder (runner.outcomes job rules)) started),
    by rw [run, hrules]; rfl, job.keys_deliveries_sublist _ _, ?_⟩
  intro limit hlimit p hreaches
  refine ⟨Pool.exists_done hlimit p, fun hdone => ?_⟩
  have hcompletes := Pool.completes_of_done hreaches hdone
  obtain ⟨hsettled, hsummary, hcounters, hevents, hhistory⟩ :=
    job.conclude_eq runner.now.day hcompletes hserial hlen started
  refine ⟨congrArg _ hsettled, ?_, hsummary, hcounters, hevents, fun hnodup => ?_⟩
  · rw [Job.conclude_sink, hsettled]
  · have hsame := hhistory (History.same_upsertAll fun k =>
      hcompletes.filter_writes_eq hserial (runner.owned_outcomes job rules) hnodup k)
    exact ⟨hsame, hsame.entries_eq⟩

end Runner

/-! Two postponed resources, the second of which is first to write. -/
namespace Pair

def resource (id : String) : Resource := ⟨id, "", "", [(deadlineTag, "1")]⟩

def job : Job Rat := { Lone.job with resources := [resource "i-1", resource "i-2"] }

def tasks : Pool Rat := .start (Lone.runner.outcomes job [])

theorem rules?_job (compiler : Pattern.Compiler) : job.rules? compiler = .ok [] := by
  have hfault : job.policy.settings.fault? = none := by
    rw [← Option.isNone_iff_eq_none]
    decide
  have hrules : job.policy.rules = [] := rfl
  rw [Job.rules?, Settings.validate, hfault, hrules]
  rfl

theorem exists_write : ∃ p e, Pool.Reaches 1 tasks p ∧ p.writes = [(1, e)] := by
  have hlength : ((Lone.runner.engine job []).run Lone.runner.read (resource "i-2")).history.length =
      4 := by decide
  generalize ho : (Lone.runner.engine job []).run Lone.runner.read (resource "i-2") = o at hlength
  obtain ⟨e, left, hhistory⟩ := List.exists_cons_of_length_pos (show 0 < o.history.length by omega)
  have htask : tasks.tasks[1]? = some ⟨o, .waiting⟩ := ho ▸ rfl
  have hstarted : (tasks.put 1 ⟨o, .running o.history⟩).tasks[1]? =
      some ⟨o, .running (e :: left)⟩ := by
    rw [hhistory]
    rfl
  exact ⟨_, e, .tail (.single (.start htask (by decide))) (.write hstarted), rfl⟩

end Pair

theorem run_any_order_pair : Pair.job.rules? Lone.runner.compiler = .ok [] ∧
    ∃ p e q, Pool.Reaches 1 Pair.tasks p ∧ p.writes = [(1, e)] ∧ Pool.Reaches 1 p q ∧ q.Done ∧
      ∃ summary ended, Lone.runner.run Pair.job {} = .ok (summary, ended) ∧
        let concluded := Pair.job.conclude Lone.runner.now.day q.fanOut
          { events := [.jobStarted 2 1] }
        concluded.1 = summary ∧ concluded.2.history.entries = ended.history.entries := by
  obtain ⟨p, e, hwrite, hwrites⟩ := Pair.exists_write
  obtain ⟨summary, ended, received, hrun, -, horders⟩ :=
    Lone.runner.run_any_order Pair.job (Pair.rules?_job _) {}
  obtain ⟨q, hreaches, hdone⟩ := (horders 1 Nat.one_pos p hwrite).1
  obtain ⟨-, -, hsummary, -, -, hhistory⟩ :=
    (horders 1 Nat.one_pos q (hwrite.trans hreaches)).2 hdone
  exact ⟨Pair.rules?_job _, p, e, q, hwrite, hwrites, hreaches, hdone, summary, ended, hrun, hsummary,
    (hhistory (by decide)).2⟩

end FleetSizing
