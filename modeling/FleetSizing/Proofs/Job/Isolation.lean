import FleetSizing.Proofs.Distinct
import FleetSizing.Proofs.Job.Account

/-! What a resource gets from a job depends on its own samples and those of its group, and on nothing else in
the job. Reconciling a group hands reports out to its completed members and leaves all others alone, so that
the members, taken out of the job in their order, are reconciled as if they were by themselves. -/
namespace FleetSizing

variable {α : Type}

@[simp] theorem Outcome.isCompleted_withReport (report : Report α) (o : Outcome α) :
    (o.withReport report).isCompleted = o.isCompleted := by
  cases o <;> rfl

/-- The reports of one group as they come back from reconciliation. -/
def Group.reconciled [Scalar α] (reports : List (Report α)) : List (Report α) :=
  (passes (reports.filter (·.status == .success))).1.foldl (fun rs r => putFirst r rs) reports

namespace Job

/-- Resources of a job, in order, with their outcomes. -/
abbrev Pairs (α : Type) := List (Resource × Outcome α)

variable {p P : Resource × Outcome α → Bool} {pairs pairs' : Pairs α} {reports : List (Report α)}

/-- The places of some of the resources. -/
def places (p : Resource × Outcome α → Bool) (pairs : Pairs α) : List Nat :=
  (pairs.zipIdx.filter fun q => p q.1).map (·.2)

/-- Gives one report after the other to some of the resources. -/
def handOut (p : Resource × Outcome α → Bool) : Pairs α → List (Report α) → Pairs α
  | [], _ => []
  | q :: qs, [] => q :: qs
  | q :: qs, report :: reports =>
    if p q then (q.1, q.2.withReport report) :: handOut p qs reports
    else q :: handOut p qs (report :: reports)

@[simp] theorem handOut_nil : handOut p pairs [] = pairs := by
  cases pairs <;> rfl

theorem places_cons (q : Resource × Outcome α) :
    places p (q :: pairs) = (if p q then [0] else []) ++ (places p pairs).map (· + 1) := by
  simp only [places, List.zipIdx_cons, List.zipIdx_succ, List.filter_cons, List.filter_map,
    List.map_map, Function.comp_def]
  split <;> simp

theorem places_congr (h : pairs.map p = pairs'.map p) : places p pairs = places p pairs' := by
  induction pairs generalizing pairs' with
  | nil =>
    rw [List.map_nil, eq_comm, List.map_eq_nil_iff] at h
    rw [h]
  | cons q qs ih =>
    cases pairs' with
    | nil => simp at h
    | cons q' qs' =>
      rw [List.map_cons, List.map_cons, List.cons.injEq] at h
      rw [places_cons, places_cons, h.1, ih h.2]

theorem length_places : (places p pairs).length = pairs.countP p := by
  induction pairs with
  | nil => rfl
  | cons q qs ih =>
    rw [places_cons, List.countP_cons]
    split <;> simp [ih]

theorem filterMap_places {β : Type} (g : Outcome α → Option β) :
    (places p pairs).filterMap (fun i => (pairs.map (·.2))[i]?.bind g) =
      (pairs.filter p).filterMap fun q => g q.2 := by
  induction pairs with
  | nil => rfl
  | cons q qs ih =>
    have htail : ((places p qs).map (· + 1)).filterMap
        (fun i => ((q :: qs).map (·.2))[i]?.bind g) = (qs.filter p).filterMap fun q => g q.2 := by
      rw [← ih, List.filterMap_map]
      rfl
    rw [places_cons, List.filterMap_append, htail, List.filter_cons]
    split
    · rw [List.filterMap_cons]
      cases hq : g q.2 <;> simp [hq]
    · rfl

theorem foldl_modify_succ (changes : List (Nat × Report α)) (o : Outcome α) (os : List (Outcome α)) :
    (changes.map fun c => (c.1 + 1, c.2)).foldl (fun os c => os.modify c.1 (Outcome.withReport c.2))
      (o :: os) = o :: changes.foldl (fun os c => os.modify c.1 (Outcome.withReport c.2)) os := by
  induction changes generalizing os with
  | nil => rfl
  | cons c changes ih => exact ih _

/-- Changing the reports at the places of some resources hands them out. -/
theorem foldl_withReport_places : ((places p pairs).zip reports).foldl
    (fun os c => os.modify c.1 (Outcome.withReport c.2)) (pairs.map (·.2)) =
      (handOut p pairs reports).map (·.2) := by
  induction pairs generalizing reports with
  | nil => simp [places, handOut]
  | cons q qs ih =>
    rw [places_cons]
    cases reports with
    | nil => simp
    | cons report reports =>
      rw [handOut]
      split
      · rw [List.singleton_append, List.zip_cons_cons, List.zip_map_left, List.foldl_cons,
          List.map_cons, List.map_cons, ← ih]
        exact foldl_modify_succ _ _ _
      · rw [List.nil_append, List.zip_map_left, List.map_cons, List.map_cons, ← ih]
        exact foldl_modify_succ _ _ _

/-- What a report has no part in stays as it is. -/
theorem map_handOut {β : Type} {g : Resource × Outcome α → β}
    (hg : ∀ r o report, g (r, Outcome.withReport report o) = g (r, o)) :
    (handOut p pairs reports).map g = pairs.map g := by
  induction pairs generalizing reports with
  | nil => rfl
  | cons q qs ih =>
    cases reports with
    | nil => rfl
    | cons report reports =>
      rw [handOut]
      split
      · rw [List.map_cons, List.map_cons, hg, ih]
      · rw [List.map_cons, List.map_cons, ih]

section

variable (hP : ∀ r o report, P (r, Outcome.withReport report o) = P (r, o))

include hP

/-- Resources that include all that are given reports are given them by themselves. -/
theorem filter_handOut (hp : ∀ q, p q → P q) :
    (handOut p pairs reports).filter P = handOut p (pairs.filter P) reports := by
  induction pairs generalizing reports with
  | nil => rfl
  | cons q qs ih =>
    cases reports with
    | nil => simp
    | cons report reports =>
      rw [handOut]
      by_cases hq : p q
      · have hPq := hp q hq
        rw [if_pos hq, List.filter_cons, hP, if_pos hPq, ih, List.filter_cons, if_pos hPq, handOut,
          if_pos hq]
      · rw [if_neg hq, List.filter_cons, List.filter_cons, ih]
        split
        · rw [handOut, if_neg hq]
        · rfl

theorem filter_handOut_other (hp : ∀ q, p q → ¬ P q) :
    (handOut p pairs reports).filter P = pairs.filter P := by
  induction pairs generalizing reports with
  | nil => rfl
  | cons q qs ih =>
    cases reports with
    | nil => simp
    | cons report reports =>
      rw [handOut]
      split
      · rename_i hq
        rw [List.filter_cons, hP, if_neg (hp q hq), ih, List.filter_cons, if_neg (hp q hq)]
      · rw [List.filter_cons, ih, List.filter_cons]

end

/-- The resources of a group, or those without one, failed and postponed ones included. -/
def within (tagKey : String) (group : Option String) (pairs : Pairs α) : Pairs α :=
  pairs.filter fun q => groupKey? q.1.tags tagKey = group

/-- A completed resource of a group; only these are reconciled. -/
def isMember (tagKey name : String) (q : Resource × Outcome α) : Bool :=
  q.2.isCompleted && groupKey? q.1.tags tagKey = some name

variable {tagKey name : String} {group : Option String} {q : Resource × Outcome α}

theorem isMember_iff :
    isMember tagKey name q ↔ q.2.isCompleted ∧ groupKey? q.1.tags tagKey = some name := by
  simp [isMember]

/-- The groups of a job are those of its completed resources, each listed once with its places. -/
theorem exists_groups (job : Job α) (outcomes : List (Outcome α)) :
    let tagKey := job.policy.settings.groupTagKey
    let pairs := job.resources.zip outcomes
    ∃ names : List String, names.Nodup ∧
      (∀ q ∈ pairs, ∀ name, isMember tagKey name q → name ∈ names) ∧
      job.groups outcomes = names.map fun name => (name, places (isMember tagKey name) pairs) := by
  intro tagKey pairs
  have hgroup : ∀ q : Resource × Outcome α, ∀ name,
      isMember tagKey name q = (job.group? q.1 q.2 == some name) := by
    intro q name
    rw [Bool.eq_iff_iff, isMember_iff, beq_iff_eq, group?]
    split <;> simp_all [tagKey]
  have hplaces : ∀ (name : String) (qs : List ((Resource × Outcome α) × Nat)),
      ((qs.filterMap fun q => (job.group? q.1.1 q.1.2).map (·, q.2)).filter (·.1 == name)).map (·.2) =
        (qs.filter fun q => isMember tagKey name q.1).map (·.2) := by
    intro name qs
    induction qs with
    | nil => rfl
    | cons q qs ih =>
      rw [List.filterMap_cons, List.filter_cons, hgroup]
      cases hq : job.group? q.1.1 q.1.2 with
      | none => simpa using ih
      | some other =>
        by_cases hname : other = name
        · simp [hname, ih]
        · simp [hname, ih]
  refine ⟨_, ?_, ?_, List.map_congr_left fun name _ => congrArg (Prod.mk name) (hplaces name _)⟩
  · rw [(List.mergeSort_perm _ _).nodup_iff]
    exact nodup_eraseDups _
  · intro q hq name hmember
    obtain ⟨i, hi⟩ := List.mem_iff_getElem?.mp hq
    rw [hgroup, beq_iff_eq] at hmember
    rw [List.mem_mergeSort, List.mem_eraseDups, List.mem_map]
    refine ⟨(name, i), List.mem_filterMap.mpr ⟨(q, i), List.mem_zipIdx_iff_getElem?.mpr hi, ?_⟩, rfl⟩
    exact congrArg (Option.map fun name => (name, i)) hmember

variable [Scalar α]

/-- Reconciles some resources among the others. -/
def settle (p : Resource × Outcome α → Bool) (pairs : Pairs α) : Pairs α :=
  handOut p pairs (Group.reconciled ((pairs.filter p).filterMap (·.2.report?)))

/-- Reconciles a group, which has to have several completed members. -/
def settleGroup (tagKey : String) (pairs : Pairs α) (name : String) : Pairs α :=
  if 1 < pairs.countP (isMember tagKey name) then settle (isMember tagKey name) pairs else pairs

theorem map_settleGroup {β : Type} {g : Resource × Outcome α → β}
    (hg : ∀ r o report, g (r, Outcome.withReport report o) = g (r, o)) :
    (settleGroup tagKey pairs name).map g = pairs.map g := by
  unfold settleGroup
  split
  · exact map_handOut hg
  · rfl

/-- A group is reconciled among all resources as it is by itself. -/
theorem within_settleGroup : within tagKey (some name) (settleGroup tagKey pairs name) =
    settleGroup tagKey (within tagKey (some name) pairs) name := by
  have hmembers : ∀ q : Resource × Outcome α, isMember tagKey name q →
      decide (groupKey? q.1.tags tagKey = some name) := by
    intro q hq
    simpa using (isMember_iff.mp hq).2
  have hfilter : (within tagKey (some name) pairs).filter (isMember tagKey name) =
      pairs.filter (isMember tagKey name) := by
    rw [within, List.filter_filter]
    refine List.filter_congr fun q _ => ?_
    cases hq : isMember tagKey name q with
    | false => rfl
    | true => rw [hmembers q hq, Bool.and_self]
  rw [settleGroup, settleGroup, List.countP_eq_length_filter, List.countP_eq_length_filter, hfilter]
  split
  · rw [settle, settle, hfilter]
    exact filter_handOut (fun _ _ _ => rfl) hmembers
  · rfl

theorem within_settleGroup_other (h : group ≠ some name) :
    within tagKey group (settleGroup tagKey pairs name) = within tagKey group pairs := by
  unfold settleGroup
  split
  · refine filter_handOut_other (fun _ _ _ => rfl) fun q hq => ?_
    rw [(isMember_iff.mp hq).2]
    simpa using h.symm
  · rfl

theorem within_foldl_settleGroup_other {names : List String} (h : ∀ name ∈ names, group ≠ some name) :
    within tagKey group (names.foldl (settleGroup tagKey) pairs) = within tagKey group pairs := by
  induction names generalizing pairs with
  | nil => rfl
  | cons name names ih =>
    rw [List.foldl_cons, ih fun name hname => h name (List.mem_cons_of_mem _ hname),
      within_settleGroup_other (h name List.mem_cons_self)]

/-- Whatever groups are reconciled before and after it. -/
theorem within_foldl_settleGroup {names : List String} (hnodup : names.Nodup) (h : name ∈ names) :
    within tagKey (some name) (names.foldl (settleGroup tagKey) pairs) =
      settleGroup tagKey (within tagKey (some name) pairs) name := by
  induction names generalizing pairs with
  | nil => cases h
  | cons first names ih =>
    rw [List.nodup_cons] at hnodup
    rw [List.foldl_cons]
    by_cases heq : name = first
    · subst heq
      rw [within_foldl_settleGroup_other fun other hother => ?_, within_settleGroup]
      rintro ⟨⟩
      exact hnodup.1 hother
    · rw [ih hnodup.2 ((List.mem_cons.mp h).resolve_left heq),
        within_settleGroup_other fun hname => heq (Option.some.inj hname)]

theorem reconcileGroup_places {day : Day} {s : Reconciliation α} (hs : s.outcomes = pairs.map (·.2)) :
    (reconcileGroup day s (name, places p pairs)).outcomes = (settle p pairs).map (·.2) := by
  rw [settle, ← foldl_withReport_places, ← filterMap_places Outcome.report?, ← hs]
  rfl

/-- Places of members stay good while groups are reconciled, since completed resources stay so. -/
theorem foldl_reconcileGroup_places {day : Day} {s : Reconciliation α} {names : List String}
    (hs : s.outcomes = pairs.map (·.2))
    (hmembers : ∀ name, pairs'.map (isMember tagKey name) = pairs.map (isMember tagKey name)) :
    (((names.map fun name => (name, places (isMember tagKey name) pairs')).filter
        fun g => 1 < g.2.length).foldl (reconcileGroup day) s).outcomes =
      (names.foldl (settleGroup tagKey) pairs).map (·.2) := by
  induction names generalizing s pairs with
  | nil => exact hs
  | cons name names ih =>
    have hplaces := places_congr (hmembers name)
    have hkept : ∀ other, pairs'.map (isMember tagKey other) =
        (settleGroup tagKey pairs name).map (isMember tagKey other) := fun other =>
      (hmembers other).trans (map_settleGroup fun _ _ _ => by simp [isMember]).symm
    rw [List.map_cons, List.filter_cons, List.foldl_cons]
    simp only [hplaces, length_places, decide_eq_true_eq]
    split
    · rename_i hseveral
      rw [List.foldl_cons]
      refine ih ?_ hkept
      rw [settleGroup, if_pos hseveral]
      exact reconcileGroup_places hs
    · rename_i hseveral
      refine ih ?_ hkept
      rwa [settleGroup, if_neg hseveral]

theorem reconcile_within (job : Job α) (day : Day) (h : History α) {outcomes : List (Outcome α)}
    (hlen : outcomes.length = job.resources.length) :
    let tagKey := job.policy.settings.groupTagKey
    let pairs := job.resources.zip outcomes
    let reconciled := job.resources.zip (job.reconcile day outcomes h).outcomes
    (∀ name, within tagKey (some name) reconciled =
      settleGroup tagKey (within tagKey (some name) pairs) name) ∧
    within tagKey none reconciled = within tagKey none pairs := by
  intro tagKey pairs reconciled
  obtain ⟨names, hnodup, hlisted, hgroups⟩ := job.exists_groups outcomes
  have hreconciled : reconciled = names.foldl (settleGroup tagKey) pairs := by
    have hresources : (names.foldl (settleGroup tagKey) pairs).map (·.1) = job.resources :=
      List.foldlRecOn (motive := fun qs => List.map Prod.fst qs = job.resources) names
        (settleGroup tagKey) (List.map_fst_zip (Nat.le_of_eq hlen.symm))
        fun _ hqs _ _ => (map_settleGroup fun _ _ _ => rfl).trans hqs
    refine (List.zip_of_prod hresources ?_).symm
    rw [reconcile, hgroups]
    exact (foldl_reconcileGroup_places (List.map_snd_zip (Nat.le_of_eq hlen)).symm fun _ => rfl).symm
  rw [hreconciled]
  refine ⟨fun name => ?_, within_foldl_settleGroup_other fun name _ => (Option.some_ne_none name).symm⟩
  by_cases hname : name ∈ names
  · exact within_foldl_settleGroup hnodup hname
  · have hnone : (within tagKey (some name) pairs).countP (isMember tagKey name) = 0 :=
      List.countP_eq_zero.mpr fun q hq hmember =>
        hname (hlisted q (List.mem_of_mem_filter hq) name hmember)
    rw [settleGroup, hnone, within_foldl_settleGroup_other]
    · rfl
    · rintro other hother ⟨⟩
      exact hname hother

/-- Resources of a job, in order, with their outcomes once the sink has answered. -/
def ended (job : Job α) (day : Day) (f : FanOut α) (l : Ledger α) : Pairs α :=
  job.resources.zip (job.deliver (job.settled day f l) l.sink).1

/-- Jobs that differ in their names and resources only. -/
structure Alike (job job' : Job α) : Prop where
  policy : job.policy = job'.policy
  customer : job.customer = job'.customer
  cloud : job.cloud = job'.cloud
  tenant : job.tenant = job'.tenant

omit [Scalar α] in
theorem Alike.deliveries_eq {job job' : Job α} (h : job.Alike job') (pairs : Pairs α) :
    job.deliveries pairs = job'.deliveries pairs := by
  unfold deliveries resultKey
  rw [h.customer, h.cloud, h.tenant]

end Job

/-- Takes whatever is delivered. -/
def Sink.Accepts (s : Sink α) : Prop :=
  ∀ n key report, s.refusal n key report = none

theorem Sink.Accepts.taken {s : Sink α} (h : s.Accepts) (ds : List (ResultKey × Report α)) :
    s.taken ds = ds := by
  have hall : (fun q : (ResultKey × Report α) × Nat =>
      if (s.refusal q.2 q.1.1 q.1.2).isNone then some q.1 else none) = fun q => some q.1 := by
    funext q
    rw [h]
    rfl
  rw [Sink.taken]
  exact (congrArg (List.filterMap · _) hall).trans (by simp [List.filterMap_eq_map'])

theorem Job.answered_of_accepts {s : Sink α} (h : s.Accepts) (job : Job α) (pairs : Job.Pairs α) :
    job.answered s pairs = pairs.map (·.2) := by
  have hnone : ∀ i, job.refusal? s pairs i = none := by
    intro i
    unfold refusal?
    cases pairs[i]? with
    | none => rfl
    | some q => cases q.2.delivery? <;> simp [h _]
  rw [answered_eq_map]
  simp only [hnone]
  have hfst := congrArg (List.map (·.2)) (List.zipIdx_map_fst 0 pairs)
  rwa [List.map_map] at hfst

namespace Runner

open Job

variable [Scalar α] (runner : Runner α) {job job' : Job α} {rules : RuleSet} {f f' : FanOut α}
  {l l' : Ledger α}

/-- An accepting sink takes everything, and a group comes out as its resources do by themselves. -/
theorem ended_within (hf : f.Completes (runner.outcomes job rules)) (hl : l.sink.Accepts) :
    let tagKey := job.policy.settings.groupTagKey
    let ended := job.ended runner.now.day f l
    let alone := fun r => (r, (runner.engine job rules).run runner.read r)
    ended.map (·.1) = job.resources ∧
    (job.conclude runner.now.day f l).2.sink.records = l.sink.records ++ job.deliveries ended ∧
    (∀ name, within tagKey (some name) ended = settleGroup tagKey
      ((job.resources.filter fun r => groupKey? r.tags tagKey = some name).map alone) name) ∧
    within tagKey none ended =
      (job.resources.filter fun r => groupKey? r.tags tagKey = none).map alone := by
  intro tagKey ended alone
  have hlen : (runner.outcomes job rules).length = job.resources.length := by simp [outcomes]
  have hresources := job.map_fst_settled runner.now.day f l
  have hended : ended = job.settled runner.now.day f l := by
    refine (List.zip_of_prod hresources ?_).symm
    rw [Job.deliver_outcomes, Job.answered_of_accepts hl]
  have hwithin : ∀ group, within tagKey group (job.resources.zip (runner.outcomes job rules)) =
      (job.resources.filter fun r => groupKey? r.tags tagKey = group).map alone := by
    intro group
    have hpairs : job.resources.zip (runner.outcomes job rules) = job.resources.map alone := by
      rw [outcomes]
      exact (List.zip_of_prod (by simp [alone, Function.comp_def]) (by simp [alone])).symm
    rw [hpairs, within, List.filter_map]
    rfl
  obtain ⟨hgroup, hnone⟩ := job.reconcile_within runner.now.day (l.history.upsertAll f.writes) hlen
  rw [← FanOut.outcomes_eq_of_lookup hf.arrivals hlen] at hgroup hnone
  refine ⟨hended ▸ hresources, ?_, fun name => ?_, ?_⟩
  · rw [Job.conclude_sink, (Sink.foldl_append _ _).2, hl.taken, hended]
  · rw [hended, ← hwithin, ← FanOut.outcomes_eq_of_lookup hf.arrivals hlen]
    exact hgroup name
  · rw [hended, ← hwithin, ← FanOut.outcomes_eq_of_lookup hf.arrivals hlen]
    exact hnone

/-- Jobs that are alike give the members of a group the same reports, failures and postponements if they list
the same members in the same order, and likewise any resource without a group. No other resource of either
job has a part in it, and neither have the order in which tasks end, the history or what the sink already
holds. -/
theorem group_isolated (halike : job.Alike job') (hrules : job.rules? runner.compiler = .ok rules)
    (hf : f.Completes (runner.outcomes job rules)) (hf' : f'.Completes (runner.outcomes job' rules))
    (hl : l.sink.Accepts) (hl' : l'.sink.Accepts) :
    let tagKey := job.policy.settings.groupTagKey
    let ended := job.ended runner.now.day f l
    let ended' := job'.ended runner.now.day f' l'
    job'.rules? runner.compiler = .ok rules ∧
    ended.map (·.1) = job.resources ∧ ended'.map (·.1) = job'.resources ∧
    (job.conclude runner.now.day f l).2.sink.records = l.sink.records ++ job.deliveries ended ∧
    (job'.conclude runner.now.day f' l').2.sink.records = l'.sink.records ++ job'.deliveries ended' ∧
    (∀ name, (job.resources.filter fun r => groupKey? r.tags tagKey = some name) =
        (job'.resources.filter fun r => groupKey? r.tags tagKey = some name) →
      within tagKey (some name) ended = within tagKey (some name) ended' ∧
      job.deliveries (within tagKey (some name) ended) =
        job'.deliveries (within tagKey (some name) ended')) ∧
    ∀ r, groupKey? r.tags tagKey = none → r ∈ job.resources → r ∈ job'.resources →
      ∃ o, (∀ o', (r, o') ∈ ended ↔ o' = o) ∧ ∀ o', (r, o') ∈ ended' ↔ o' = o := by
  intro tagKey ended ended'
  have hengine : runner.engine job' rules = runner.engine job rules := by
    rw [engine, engine, halike.policy, halike.customer]
  have htagKey : job'.policy.settings.groupTagKey = tagKey := by rw [← halike.policy]
  obtain ⟨hresources, hrecords, hgroup, hnone⟩ := runner.ended_within hf hl
  obtain ⟨hresources', hrecords', hgroup', hnone'⟩ := runner.ended_within hf' hl'
  rw [htagKey, hengine] at hgroup' hnone'
  refine ⟨?_, hresources, hresources', hrecords, hrecords', fun name hmembers => ?_, ?_⟩
  · rw [← hrules, Job.rules?, Job.rules?, halike.policy]
  · have hsame : within tagKey (some name) ended = within tagKey (some name) ended' := by
      rw [hgroup, hgroup', hmembers]
    exact ⟨hsame, hsame ▸ halike.deliveries_eq _⟩
  · intro r hr hmem hmem'
    have hmem_iff : ∀ (pairs : Pairs α) (rs : List Resource), r ∈ rs →
        within tagKey none pairs = (rs.filter fun r => groupKey? r.tags tagKey = none).map
          (fun r => (r, (runner.engine job rules).run runner.read r)) →
        ∀ o, (r, o) ∈ pairs ↔ o = (runner.engine job rules).run runner.read r := by
      intro pairs rs hrs hwithin o
      have hlisted : (r, o) ∈ within tagKey none pairs ↔ (r, o) ∈ pairs := by simp [within, hr]
      rw [← hlisted, hwithin]
      simp only [List.mem_map, List.mem_filter, Prod.mk.injEq]
      constructor
      · rintro ⟨s, -, rfl, rfl⟩
        rfl
      · rintro rfl
        exact ⟨r, ⟨hrs, by simp [hr]⟩, rfl, rfl⟩
    exact ⟨_, hmem_iff ended job.resources hmem hnone, hmem_iff ended' job'.resources hmem' hnone'⟩

end Runner

/-! Two jobs with a group in common, which one of them lists around a resource without a group and the other
one after a member of another group. -/
namespace Shared

def grouped (id name : String) : Resource := ⟨id, "", "", [("rightsizer:group", name)]⟩

def left : Job Rat :=
  { Lone.job with resources := [grouped "i-1" "g", Lone.resource, grouped "i-2" "g"] }

def right : Job Rat :=
  { Lone.job with
    id := "j-2"
    resources := [grouped "i-4" "h", grouped "i-1" "g", grouped "i-2" "g", Lone.resource] }

end Shared

theorem group_isolated_shared :
    let day := Lone.runner.now.day
    let ended := Shared.left.ended day (.inOrder (Lone.runner.outcomes Shared.left [])) {}
    let ended' := Shared.right.ended day (.inOrder (Lone.runner.outcomes Shared.right [])) {}
    Job.Alike Shared.left Shared.right ∧ Shared.left.rules? Lone.runner.compiler = .ok [] ∧
      Job.within "rightsizer:group" (some "g") ended =
        Job.within "rightsizer:group" (some "g") ended' ∧
      (Job.within "rightsizer:group" (some "g") ended).map (·.1) =
        [Shared.grouped "i-1" "g", Shared.grouped "i-2" "g"] ∧
      ∃ o, (Lone.resource, o) ∈ ended ∧ (Lone.resource, o) ∈ ended' := by
  intro day ended ended'
  have halike : Job.Alike Shared.left Shared.right := ⟨rfl, rfl, rfl, rfl⟩
  have hrules : Shared.left.rules? Lone.runner.compiler = .ok [] := Pair.rules?_job _
  have haccepts : ({} : Ledger Rat).sink.Accepts := fun _ _ _ => rfl
  obtain ⟨-, hresources, -, -, -, hgroup, hnone⟩ := Lone.runner.group_isolated halike hrules
    (FanOut.completes_inOrder (Lone.runner.outcomes Shared.left []))
    (FanOut.completes_inOrder (Lone.runner.outcomes Shared.right []))
    haccepts haccepts
  obtain ⟨o, ho, ho'⟩ := hnone Lone.resource rfl (by decide) (by decide)
  refine ⟨halike, hrules, (hgroup "g" (by decide)).1, ?_, o, (ho o).mpr rfl, (ho' o).mpr rfl⟩
  have hmap : (Job.within "rightsizer:group" (some "g") ended).map (·.1) =
      (ended.map (·.1)).filter fun r => groupKey? r.tags "rightsizer:group" = some "g" := by
    rw [Job.within, List.filter_map]
    rfl
  rw [hmap, hresources]
  decide

end FleetSizing
