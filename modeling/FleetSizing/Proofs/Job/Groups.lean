import FleetSizing.Job
import FleetSizing.Proofs.Group.Places
import FleetSizing.Proofs.History.Sync

/-! What reconciling the groups of a job does to one resource. Nothing to a resource that is alone; one with
completed companions gets a report that agrees with theirs, and its entries are brought in line with it. -/
namespace FleetSizing

variable {α : Type}

namespace Outcome

/-- Replaces the reports at several places, each at most once. -/
theorem getElem?_foldl_withReport {places : List Nat} {report? : Nat → Option (Report α)}
    {f : Report α → Report α} {os : List (Outcome α)} (hnodup : places.Nodup)
    (hreport : ∀ j ∈ places, (report? j).isSome) (i : Nat) :
    ((places.zip ((places.filterMap report?).map f)).foldl
      (fun os p => os.modify p.1 (withReport p.2)) os)[i]? =
      (os[i]?).map fun o => if i ∈ places then ((report? i).map f).elim o fun r => o.withReport r else o := by
  induction places generalizing os with
  | nil => simp
  | cons j places ih =>
    rw [List.nodup_cons] at hnodup
    obtain ⟨r, hr⟩ := Option.isSome_iff_exists.mp (hreport j List.mem_cons_self)
    rw [List.filterMap_cons_some hr, List.map_cons, List.zip_cons_cons, List.foldl_cons,
      ih hnodup.2 fun l hl => hreport l (List.mem_cons_of_mem _ hl), List.getElem?_modify]
    by_cases hij : j = i
    · subst hij
      cases os[j]? <;> simp [hnodup.1, hr]
    · cases os[i]? <;> simp [hij, Ne.symm hij]

end Outcome

namespace Job

variable {job : Job α} {outcomes : List (Outcome α)} {name : String} {members : List Nat} {i j : Nat}
  {r : Resource} {o : Outcome α}

/-- A group lists the places of its members, each once. -/
theorem mem_groups (h : (name, members) ∈ job.groups outcomes) : members.Nodup ∧
    ∀ j, j ∈ members ↔ ∃ r o, (job.resources.zip outcomes)[j]? = some (r, o) ∧
      job.group? r o = some name := by
  unfold groups at h
  simp only [List.mem_map] at h
  obtain ⟨_, -, heq⟩ := h
  obtain ⟨rfl, rfl⟩ := Prod.mk.inj heq
  constructor
  · have hplaces : (job.resources.zip outcomes).zipIdx.Pairwise fun p q => p.2 ≠ q.2 := by
      rw [← List.pairwise_map (f := Prod.snd), List.zipIdx_map_snd]
      exact List.nodup_range'
    refine List.pairwise_map.mpr (List.Pairwise.filter _ (List.pairwise_filterMap.mpr ?_))
    refine hplaces.imp fun hne p hp q hq => ?_
    obtain ⟨-, -, rfl⟩ := Option.map_eq_some_iff.mp hp
    obtain ⟨-, -, rfl⟩ := Option.map_eq_some_iff.mp hq
    exact hne
  · intro j
    simp only [List.mem_map, List.mem_filter, List.mem_filterMap, beq_iff_eq]
    constructor
    · rintro ⟨_, ⟨⟨⟨⟨r, o⟩, l⟩, hl, hp⟩, rfl⟩, rfl⟩
      obtain ⟨_, hgroup, rfl⟩ := Option.map_eq_some_iff.mp hp
      exact ⟨r, o, List.mem_zipIdx_iff_getElem?.mp hl, hgroup⟩
    · rintro ⟨r, o, hj, hgroup⟩
      exact ⟨(_, j), ⟨⟨((r, o), j), List.mem_zipIdx_iff_getElem?.mpr hj, by rw [hgroup]; rfl⟩, rfl⟩, rfl⟩

theorem exists_group (hi : (job.resources.zip outcomes)[i]? = some (r, o))
    (hgroup : job.group? r o = some name) :
    ∃ members, (name, members) ∈ job.groups outcomes ∧ i ∈ members := by
  have hlisted : ∃ members, (name, members) ∈ job.groups outcomes := by
    refine ⟨_, List.mem_map.mpr ⟨name, ?_, rfl⟩⟩
    rw [List.mem_mergeSort, List.mem_eraseDups, List.mem_map]
    refine ⟨(name, i), List.mem_filterMap.mpr ⟨((r, o), i), ?_, ?_⟩, rfl⟩
    · exact List.mem_zipIdx_iff_getElem?.mpr hi
    · exact congrArg (Option.map fun name => (name, i)) hgroup
  obtain ⟨members, hmembers⟩ := hlisted
  exact ⟨members, hmembers, ((mem_groups hmembers).2 i).mpr ⟨r, o, hi, hgroup⟩⟩

/-- The reports of the completed resources at some places. -/
def reportsAt (outcomes : List (Outcome α)) (members : List Nat) : List (Report α) :=
  members.filterMap fun i => outcomes[i]?.bind Outcome.report?

/-- Completed resources have reports of their own, which tell of no failure. -/
def Named (ids : List String) (outcomes : List (Outcome α)) : Prop :=
  ∀ (j : Nat) c, outcomes[j]? = some (.completed c) →
    ids[j]? = some c.report.resource ∧ c.report.status = .success

/-- Each place once, and at each a completed resource. -/
structure Completing (outcomes : List (Outcome α)) (members : List Nat) : Prop where
  nodup : members.Nodup
  completed : ∀ j ∈ members, ∃ c, outcomes[j]? = some (.completed c)

variable {ids : List String} {report : Report α}

theorem place_inj (hids : ids.Nodup) {id : String} (hi : ids[i]? = some id) (hj : ids[j]? = some id) :
    i = j :=
  (List.getElem?_inj (List.getElem?_eq_some_iff.mp hi).1 hids).mp (hi.trans hj.symm)

theorem mem_reportsAt : report ∈ reportsAt outcomes members ↔
    ∃ j ∈ members, ∃ c, outcomes[j]? = some (.completed c) ∧ c.report = report := by
  rw [reportsAt, List.mem_filterMap]
  refine exists_congr fun j => and_congr_right fun _ => ?_
  cases outcomes[j]? with
  | none => simp
  | some o => cases o <;> simp [Outcome.report?]

theorem completing_of_mem_groups (h : (name, members) ∈ job.groups outcomes) :
    Completing outcomes members := by
  obtain ⟨hnodup, hmem⟩ := mem_groups h
  refine ⟨hnodup, fun j hj => ?_⟩
  obtain ⟨r, o, hzip, hgroup⟩ := (hmem j).mp hj
  have ho : outcomes[j]? = some o := (List.getElem?_zip_eq_some.mp hzip).2
  unfold group? at hgroup
  split at hgroup
  · rename_i hcompleted
    cases o with
    | completed c => exact ⟨c, ho⟩
    | postponed _ _ _ _ => cases hcompleted
    | failed _ _ => cases hcompleted
  · cases hgroup

theorem Named.nodup_reportsAt (hnamed : Named ids outcomes) (hids : ids.Nodup)
    (hmembers : Completing outcomes members) :
    ((reportsAt outcomes members).map (·.resource)).Nodup := by
  refine List.pairwise_map.mpr (List.pairwise_filterMap.mpr ?_)
  refine hmembers.nodup.imp_of_mem fun {j l} hj hl hne p hp q hq heq => hne ?_
  obtain ⟨c, hc⟩ := hmembers.completed j hj
  obtain ⟨d, hd⟩ := hmembers.completed l hl
  rw [hc] at hp
  rw [hd] at hq
  obtain rfl : c.report = p := Option.some.inj hp
  obtain rfl : d.report = q := Option.some.inj hq
  exact place_inj hids ((hnamed j c hc).1.trans (congrArg some heq)) (hnamed l d hd).1

variable [Scalar α] (day : Day) {s : Reconciliation α} {group : String × List Nat}
  {groups : List (String × List Nat)}

/-- The members of a group get what the passes make of their reports, and the others keep theirs. Then the
entries of all members are brought in line. -/
theorem reconcileGroup_eq (hnamed : Named ids s.outcomes) (hids : ids.Nodup)
    (hmembers : Completing s.outcomes group.2) :
    let reports := reportsAt s.outcomes group.2
    (∀ i, (reconcileGroup day s group).outcomes[i]? = (s.outcomes[i]?).map fun o =>
      if i ∈ group.2 then (o.report?.map (Group.agree reports)).elim o fun r => o.withReport r else o) ∧
    (reconcileGroup day s group).history =
      (reports.map (Group.agree reports)).foldl (Group.syncHistory day) s.history := by
  intro reports
  have hsuccess : ∀ r ∈ reports, r.status = .success := by
    intro r hr
    obtain ⟨j, -, c, hc, rfl⟩ := mem_reportsAt.mp hr
    exact (hnamed j c hc).2
  have hactive : reports.filter (·.status == .success) = reports :=
    List.filter_eq_self.mpr fun r hr => by simp [hsuccess r hr]
  have hreports : (Group.reconcile day s.history reports).1 = reports.map (Group.agree reports) := by
    rw [Group.reconcile_of_nodup (hnamed.nodup_reportsAt hids hmembers), hactive]
    exact List.map_congr_left fun r hr => if_pos (hsuccess r hr)
  constructor
  · intro i
    have hplaces : (reconcileGroup day s group).outcomes = (group.2.zip
        (Group.reconcile day s.history reports).1).foldl
          (fun os p => os.modify p.1 (Outcome.withReport p.2)) s.outcomes := rfl
    have hsome : ∀ j ∈ group.2, (s.outcomes[j]?.bind Outcome.report?).isSome := by
      intro j hj
      obtain ⟨c, hc⟩ := hmembers.completed j hj
      simp [hc, Outcome.report?]
    rw [hplaces, hreports]
    refine (Outcome.getElem?_foldl_withReport hmembers.nodup hsome i).trans ?_
    cases ho : s.outcomes[i]? <;> rfl
  · have hhistory : (reconcileGroup day s group).history =
        (Group.passes (reports.filter (·.status == .success))).1.foldl (Group.syncHistory day)
          s.history := rfl
    rw [hhistory, hactive, Group.passes_eq]

theorem reconcileGroup_of_upsert {Q : History α → Prop} (hQ : ∀ h e, Q h → Q (h.upsert e))
    (hs : Q s.history) : Q (reconcileGroup day s group).history :=
  List.foldlRecOn _ (Group.syncHistory day) hs fun _ hh _ _ => Group.syncHistory_of_upsert hQ hh

/-- What no write can break holds of the history of a job that has ended. -/
theorem conclude_of_upsert {Q : History α → Prop} (hQ : ∀ h e, Q h → Q (h.upsert e)) (job : Job α)
    (f : FanOut α) (l : Ledger α) (hl : Q l.history) : Q (job.conclude day f l).2.history :=
  List.foldlRecOn (motive := fun s => Q (Reconciliation.history s)) _ (reconcileGroup day)
    (History.upsertAll_of_upsert hQ _ hl) fun _ hs _ _ => reconcileGroup_of_upsert day hQ hs

theorem isSealed_reconcileGroup : (reconcileGroup day s group).history.isSealed = s.history.isSealed :=
  reconcileGroup_of_upsert day (Q := fun h => h.isSealed = s.history.isSealed)
    (fun _ _ hh => History.isSealed_upsert.trans hh) rfl

section

variable (hnamed : Named ids s.outcomes) (hids : ids.Nodup) (hmembers : Completing s.outcomes group.2)

include hnamed hids hmembers

/-- A group leaves the other resources and their entries as they are. -/
theorem reconcileGroup_other (hi : i ∉ group.2) :
    (reconcileGroup day s group).outcomes[i]? = s.outcomes[i]? ∧
      ∀ k : EntryKey, ids[i]? = some k.resource →
        (reconcileGroup day s group).history.store.get? k = s.history.store.get? k := by
  obtain ⟨houtcomes, hhistory⟩ := reconcileGroup_eq day hnamed hids hmembers
  constructor
  · rw [houtcomes]
    simp [hi]
  · intro k hk
    rw [hhistory]
    apply Group.get?_foldl_syncHistory_of_ne
    intro r hr heq
    obtain ⟨t, ht, rfl⟩ := List.mem_map.mp hr
    obtain ⟨j, hj, c, hc, rfl⟩ := mem_reportsAt.mp ht
    rw [Group.resource_agree] at heq
    have hplace : i = j := place_inj hids hk ((hnamed j c hc).1.trans (congrArg some heq.symm))
    exact (hi (hplace ▸ hj)).elim

/-- A member of a group keeps its name and gets a report that its entries are brought in line with. -/
theorem reconcileGroup_member {c : Completed α} (hi : i ∈ group.2)
    (hc : s.outcomes[i]? = some (.completed c)) : ∃ report,
      (reconcileGroup day s group).outcomes[i]? = some (.completed { c with report }) ∧
      report.resource = c.report.resource ∧ report.status = c.report.status ∧
      ∀ kind, (reconcileGroup day s group).history.get? report.resource kind day =
        if s.history.isSealed then s.history.get? report.resource kind day
        else (s.history.get? report.resource kind day).map (·.inLine report) := by
  obtain ⟨houtcomes, hhistory⟩ := reconcileGroup_eq day hnamed hids hmembers
  generalize hreports : reportsAt s.outcomes group.2 = reports at houtcomes hhistory
  refine ⟨Group.agree reports c.report, ?_, Group.resource_agree, Group.status_agree, fun kind => ?_⟩
  · rw [houtcomes, hc]
    simp [hi, Outcome.report?, Outcome.withReport]
  · have hmem : c.report ∈ reports := hreports ▸ mem_reportsAt.mpr ⟨i, hi, c, hc, rfl⟩
    have hnodup : ((reports.map (Group.agree reports)).map (·.resource)).Nodup := by
      have hsame : (reports.map (Group.agree reports)).map (·.resource) = reports.map (·.resource) := by
        simp [Group.resource_agree]
      rw [hsame, ← hreports]
      exact hnamed.nodup_reportsAt hids hmembers
    rw [hhistory]
    exact Group.get?_foldl_syncHistory_of_mem hnodup (List.mem_map_of_mem hmem) ⟨rfl, rfl⟩

/-- Completed resources stay so. -/
theorem exists_completed_reconcileGroup {c : Completed α}
    (hc : s.outcomes[i]? = some (.completed c)) :
    ∃ c', (reconcileGroup day s group).outcomes[i]? = some (.completed c') := by
  by_cases hi : i ∈ group.2
  · obtain ⟨report, hreport, -⟩ := reconcileGroup_member day hnamed hids hmembers hi hc
    exact ⟨_, hreport⟩
  · exact ⟨c, (reconcileGroup_other day hnamed hids hmembers hi).1.trans hc⟩

theorem named_reconcileGroup : Named ids (reconcileGroup day s group).outcomes := by
  intro j c hc
  by_cases hj : j ∈ group.2
  · obtain ⟨c', hc'⟩ := hmembers.completed j hj
    obtain ⟨report, hreport, hresource, hstatus, -⟩ :=
      reconcileGroup_member day hnamed hids hmembers hj hc'
    rw [hc] at hreport
    cases hreport
    rw [hresource, hstatus]
    exact hnamed j c' hc'
  · rw [(reconcileGroup_other day hnamed hids hmembers hj).1] at hc
    exact hnamed j c hc

theorem completing_reconcileGroup {places : List Nat} (h : Completing s.outcomes places) :
    Completing (reconcileGroup day s group).outcomes places := by
  refine ⟨h.nodup, fun j hj => ?_⟩
  obtain ⟨c, hc⟩ := h.completed j hj
  exact exists_completed_reconcileGroup day hnamed hids hmembers hc

end

/-- The recommended entries of a resource say what the report at its place says. -/
def InLineAt (day : Day) (s : Reconciliation α) (i : Nat) (resource : String) : Prop :=
  ∃ c, s.outcomes[i]? = some (.completed c) ∧ ∀ kind, s.history.InLine day resource c.report kind

section

variable (hids : ids.Nodup) {resource : String} (hid : ids[i]? = some resource)

include hids

include hid in
theorem inLineAt_reconcileGroup {c : Completed α} (hnamed : Named ids s.outcomes)
    (hmembers : Completing s.outcomes group.2) (hopen : ¬ s.history.isSealed) (hi : i ∈ group.2)
    (hc : s.outcomes[i]? = some (.completed c)) :
    InLineAt day (reconcileGroup day s group) i resource := by
  obtain ⟨report, hreport, hresource, -, hentries⟩ :=
    reconcileGroup_member day hnamed hids hmembers hi hc
  have hsame : report.resource = resource := by
    rw [(hnamed i c hc).1] at hid
    exact hresource.trans (Option.some.inj hid)
  refine ⟨_, hreport, fun kind e he hstatus => ?_⟩
  have hentry := hentries kind
  rw [hsame, he, if_neg hopen] at hentry
  obtain ⟨e', he', rfl⟩ := Option.map_eq_some_iff.mp hentry.symm
  have hkind : e'.kind = kind := congrArg EntryKey.kind (Keyed.get?_eq_some_iff.mp he').2
  rw [Entry.action_inLine hstatus, hkind]

/-- Groups without a resource leave it and its entries as they are. -/
theorem foldl_reconcileGroup_other (hnamed : Named ids s.outcomes)
    (hgroups : ∀ g ∈ groups, Completing s.outcomes g.2) (hi : ∀ g ∈ groups, i ∉ g.2) :
    (groups.foldl (reconcileGroup day) s).outcomes[i]? = s.outcomes[i]? ∧
      ∀ k : EntryKey, ids[i]? = some k.resource →
        (groups.foldl (reconcileGroup day) s).history.store.get? k = s.history.store.get? k := by
  induction groups generalizing s with
  | nil => exact ⟨rfl, fun _ _ => rfl⟩
  | cons g groups ih =>
    have hg := hgroups g List.mem_cons_self
    obtain ⟨houtcome, hentries⟩ :=
      reconcileGroup_other day hnamed hids hg (hi g List.mem_cons_self)
    obtain ⟨houtcome', hentries'⟩ := ih (named_reconcileGroup day hnamed hids hg)
      (fun g' hg' => completing_reconcileGroup day hnamed hids hg (hgroups g' (List.mem_cons_of_mem _ hg')))
      fun g' hg' => hi g' (List.mem_cons_of_mem _ hg')
    exact ⟨houtcome'.trans houtcome, fun k hk => (hentries' k hk).trans (hentries k hk)⟩

include hid in
theorem foldl_reconcileGroup_inLineAt {c : Completed α} (hnamed : Named ids s.outcomes)
    (hgroups : ∀ g ∈ groups, Completing s.outcomes g.2) (hopen : ¬ s.history.isSealed)
    (hc : s.outcomes[i]? = some (.completed c)) (hi : ∃ g ∈ groups, i ∈ g.2) :
    InLineAt day (groups.foldl (reconcileGroup day) s) i resource := by
  induction groups generalizing s c with
  | nil =>
    obtain ⟨_, hg, -⟩ := hi
    cases hg
  | cons g groups ih =>
    have hg := hgroups g List.mem_cons_self
    have hnamed' := named_reconcileGroup day hnamed hids hg
    have hgroups' : ∀ g' ∈ groups, Completing (reconcileGroup day s g).outcomes g'.2 :=
      fun g' hg' => completing_reconcileGroup day hnamed hids hg (hgroups g' (List.mem_cons_of_mem _ hg'))
    by_cases hlater : ∃ g' ∈ groups, i ∈ g'.2
    · obtain ⟨c', hc'⟩ := exists_completed_reconcileGroup day hnamed hids hg hc
      exact ih hnamed' hgroups' (by rwa [isSealed_reconcileGroup]) hc' hlater
    · have hhere : i ∈ g.2 := by
        obtain ⟨g', hg', hi⟩ := hi
        rcases List.mem_cons.mp hg' with rfl | hg'
        · exact hi
        · exact (hlater ⟨g', hg', hi⟩).elim
      obtain ⟨c', hc', hentries⟩ := inLineAt_reconcileGroup day hids hid hnamed hg hopen hhere hc
      obtain ⟨houtcome, hsame⟩ := foldl_reconcileGroup_other day hids hnamed' hgroups'
        fun g' hg' hi => hlater ⟨g', hg', hi⟩
      refine ⟨c', houtcome.trans hc', fun kind e he => hentries kind e ?_⟩
      rw [← he]
      exact (hsame _ hid).symm

end

/-- Another completed resource of the job is in the group of the one at a place. -/
def Accompanied (job : Job α) (outcomes : List (Outcome α)) (i : Nat) : Prop :=
  ∃ g ∈ job.groups outcomes, 1 < g.2.length ∧ i ∈ g.2

omit [Scalar α] in
theorem accompanied_iff (hi : (job.resources.zip outcomes)[i]? = some (r, o)) :
    job.Accompanied outcomes i ↔ ∃ name, job.group? r o = some name ∧ ∃ j r' o', j ≠ i ∧
      (job.resources.zip outcomes)[j]? = some (r', o') ∧ job.group? r' o' = some name := by
  constructor
  · rintro ⟨⟨name, members⟩, hg, hlength, hmem⟩
    obtain ⟨hnodup, hplaces⟩ := mem_groups hg
    obtain ⟨_, _, hi', hgroup⟩ := (hplaces i).mp hmem
    rw [hi] at hi'
    cases hi'
    have hother : ∃ j ∈ members, j ≠ i := by
      by_contra hnone
      have hall : ∀ j ∈ members, j = i := fun j hj => by_contra fun hne => hnone ⟨j, hj, hne⟩
      rw [List.eq_replicate_of_mem hall, List.nodup_replicate] at hnodup
      exact absurd hlength (Nat.not_lt.mpr hnodup)
    obtain ⟨j, hj, hne⟩ := hother
    obtain ⟨r', o', hj, hgroup'⟩ := (hplaces j).mp hj
    exact ⟨name, hgroup, j, r', o', hne, hj, hgroup'⟩
  · rintro ⟨name, hgroup, j, r', o', hne, hj, hgroup'⟩
    obtain ⟨members, hg, hmem⟩ := exists_group hi hgroup
    have hmem' : j ∈ members := ((mem_groups hg).2 j).mpr ⟨r', o', hj, hgroup'⟩
    refine ⟨_, hg, ?_, hmem⟩
    by_contra hshort
    match members, hmem, hmem' with
    | [l], hmem, hmem' =>
      rw [List.mem_singleton] at hmem hmem'
      exact hne (hmem'.trans hmem.symm)
    | l :: l' :: ls, _, _ =>
      simp at hshort

section

variable (hnamed : Named ids outcomes) (hids : ids.Nodup) {c : Completed α} {h : History α}
  (hc : outcomes[i]? = some (.completed c))

include hnamed hids

/-- A resource that is alone keeps its report and its entries. -/
theorem reconcile_alone (halone : ¬ job.Accompanied outcomes i) :
    (job.reconcile day outcomes h).outcomes[i]? = outcomes[i]? ∧
      ∀ k : EntryKey, ids[i]? = some k.resource →
        (job.reconcile day outcomes h).history.store.get? k = h.store.get? k := by
  refine foldl_reconcileGroup_other day (s := ⟨outcomes, h, []⟩) hids hnamed ?_ ?_
  · exact fun g hg => completing_of_mem_groups (List.mem_of_mem_filter hg)
  · intro g hg hi
    obtain ⟨hg, hlength⟩ := List.mem_filter.mp hg
    exact halone ⟨g, hg, by simpa using hlength, hi⟩

include hc in
theorem reconcile_accompanied {resource : String} (hid : ids[i]? = some resource)
    (hopen : ¬ h.isSealed) (hgroup : job.Accompanied outcomes i) :
    InLineAt day (job.reconcile day outcomes h) i resource := by
  obtain ⟨g, hg, hlength, hi⟩ := hgroup
  refine foldl_reconcileGroup_inLineAt day (s := ⟨outcomes, h, []⟩) hids hid hnamed ?_ hopen hc
    ⟨g, List.mem_filter.mpr ⟨hg, by simpa using hlength⟩, hi⟩
  exact fun g' hg' => completing_of_mem_groups (List.mem_of_mem_filter hg')

end

end Job

end FleetSizing
