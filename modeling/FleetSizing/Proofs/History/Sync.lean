import FleetSizing.Proofs.History.Writes

/-! What bringing a history in line with reports does to its entries. -/
namespace FleetSizing

variable {α : Type}

namespace History

variable {Q : History α → Prop} {h : History α}

/-- What no write can break also holds after many. -/
theorem upsertAll_of_upsert (hQ : ∀ h e, Q h → Q (h.upsert e)) (es : List (Entry α)) (hh : Q h) :
    Q (h.upsertAll es) :=
  List.foldlRecOn es upsert hh fun h hh e _ => hQ h e hh

/-- What a history has entries under, in the order in which they came. -/
def keys (h : History α) : List EntryKey := h.store.values.map Entry.key

theorem Same.eq_of_keys {h' : History α} (hsame : h.Same h') (hkeys : h.keys = h'.keys) : h = h' := by
  have hstore : h.store = h'.store := Keyed.ext_of_keys hkeys hsame.get?_eq
  have hsealed := hsame.isSealed_eq
  cases h
  cases h'
  cases hstore
  cases hsealed
  rfl

end History

/-- A recommended entry of a resource says what a report says for its kind. -/
def History.InLine (h : History α) (day : Day) (resource : String) (report : Report α) (kind : Kind) :
    Prop :=
  ∀ e, h.get? resource kind day = some e → e.status = .recommended →
    e.action = (report.actionOf? kind).getD .noAction

variable [Scalar α] {r : Report α} {e : Entry α}

namespace Entry

/-- The entry, brought in line with a report if it is recommended. -/
def inLine (r : Report α) (e : Entry α) : Entry α :=
  if e.status = .recommended then e.syncWith r else e

theorem key_syncWith : (e.syncWith r).key = e.key := by
  unfold syncWith
  split <;> rfl

theorem status_syncWith : (e.syncWith r).status = e.status := by
  unfold syncWith
  split <;> rfl

/-- Nothing is left of what an earlier report said. -/
theorem syncWith_syncWith (s : Report α) : (e.syncWith s).syncWith r = e.syncWith r := by
  have hkind : (e.syncWith s).kind = e.kind := congrArg EntryKey.kind key_syncWith
  rw [syncWith, hkind, syncWith]
  unfold syncWith
  cases s.actionOf? e.kind <;> rfl

theorem action_syncWith : (e.syncWith r).action = (r.actionOf? e.kind).getD .noAction := by
  unfold syncWith
  split <;> rename_i heq <;> rw [heq] <;> rfl

theorem inLine_inLine : (e.inLine r).inLine r = e.inLine r := by
  unfold inLine
  by_cases hstatus : e.status = .recommended
  · rw [if_pos hstatus, status_syncWith, if_pos hstatus, syncWith_syncWith]
  · rw [if_neg hstatus, if_neg hstatus]

theorem action_inLine (h : (e.inLine r).status = .recommended) :
    (e.inLine r).action = (r.actionOf? e.kind).getD .noAction := by
  unfold inLine at h ⊢
  split
  · exact action_syncWith
  · rename_i hother
    rw [if_neg hother] at h
    exact (hother h).elim

end Entry

namespace Group

variable {day : Day} {h : History α} {k : EntryKey} {kind : Kind} {reports : List (Report α)}

/-- Brings the entry of one kind in line. -/
def syncKind (day : Day) (r : Report α) (h : History α) (kind : Kind) : History α :=
  match h.get? r.resource kind day with
  | some e => if e.status = .recommended then h.upsert (e.syncWith r) else h
  | none => h

theorem syncHistory_eq : syncHistory day h r = Kind.all.foldl (syncKind day r) h := rfl

theorem syncKind_of_upsert {Q : History α → Prop} (hQ : ∀ h e, Q h → Q (h.upsert e)) (hh : Q h) :
    Q (syncKind day r h kind) := by
  unfold syncKind
  split
  · split
    · exact hQ h _ hh
    · exact hh
  · exact hh

theorem syncHistory_of_upsert {Q : History α → Prop} (hQ : ∀ h e, Q h → Q (h.upsert e)) (hh : Q h) :
    Q (syncHistory day h r) :=
  List.foldlRecOn Kind.all (syncKind day r) hh fun _ hh _ _ => syncKind_of_upsert hQ hh

theorem isSealed_syncKind : (syncKind day r h kind).isSealed = h.isSealed :=
  syncKind_of_upsert (Q := fun g => g.isSealed = h.isSealed)
    (fun _ _ hg => History.isSealed_upsert.trans hg) rfl

theorem isSealed_syncHistory : (syncHistory day h r).isSealed = h.isSealed :=
  syncHistory_of_upsert (Q := fun g => g.isSealed = h.isSealed)
    (fun _ _ hg => History.isSealed_upsert.trans hg) rfl

theorem isSealed_foldl_syncHistory : (reports.foldl (syncHistory day) h).isSealed = h.isSealed :=
  List.foldlRecOn (motive := fun g => g.isSealed = h.isSealed) reports (syncHistory day) rfl
    fun _ hg _ _ => isSealed_syncHistory.trans hg

/-- Only what is there is brought in line; nothing is added. -/
theorem keys_syncKind : (syncKind day r h kind).keys = h.keys := by
  unfold syncKind
  split
  · rename_i e hfound
    split
    · have hmem : (e.syncWith r).key ∈ h.store.values.map Entry.key := by
        rw [Entry.key_syncWith]
        exact List.mem_map_of_mem (Keyed.get?_eq_some_iff.mp hfound).1
      unfold History.upsert
      split
      · rfl
      · exact (Keyed.map_key_put _ _).trans (if_pos hmem)
    · rfl
  · rfl

theorem keys_syncHistory : (syncHistory day h r).keys = h.keys :=
  List.foldlRecOn (motive := fun g => g.keys = h.keys) Kind.all (syncKind day r) rfl
    fun _ hg _ _ => keys_syncKind.trans hg

theorem keys_foldl_syncHistory : (reports.foldl (syncHistory day) h).keys = h.keys :=
  List.foldlRecOn (motive := fun g => g.keys = h.keys) reports (syncHistory day) rfl
    fun _ hg _ _ => keys_syncHistory.trans hg

theorem get?_syncKind : (syncKind day r h kind).store.get? k =
    if k = ⟨r.resource, kind, day⟩ ∧ ¬ h.isSealed then (h.store.get? k).map (·.inLine r)
    else h.store.get? k := by
  unfold syncKind History.get?
  by_cases hk : k = ⟨r.resource, kind, day⟩
  · subst hk
    cases hfound : h.store.get? ⟨r.resource, kind, day⟩ with
    | none => simp [hfound]
    | some e =>
      have hkey : (e.syncWith r).key = ⟨r.resource, kind, day⟩ :=
        Entry.key_syncWith.trans (Keyed.get?_eq_some_iff.mp hfound).2
      by_cases hstatus : e.status = .recommended
      · simp [hstatus, History.get?_upsert, hkey, hfound, Entry.inLine]
      · simp [hstatus, hfound, Entry.inLine]
  · rw [if_neg fun hboth => hk hboth.1]
    split
    · rename_i e hfound
      have hkey : (e.syncWith r).key ≠ k := by
        rw [Entry.key_syncWith, (Keyed.get?_eq_some_iff.mp hfound).2]
        exact Ne.symm hk
      split
      · rw [History.get?_upsert, if_neg fun hboth => hkey hboth.1]
      · rfl
    · rfl

theorem get?_foldl_syncKind {kinds : List Kind} (hnodup : kinds.Nodup) :
    (kinds.foldl (syncKind day r) h).store.get? k =
      if (k.resource = r.resource ∧ k.day = day ∧ k.kind ∈ kinds) ∧ ¬ h.isSealed then
        (h.store.get? k).map (·.inLine r)
      else h.store.get? k := by
  induction kinds generalizing h with
  | nil => simp
  | cons kind kinds ih =>
    rw [List.nodup_cons] at hnodup
    rw [List.foldl_cons, ih hnodup.2, isSealed_syncKind, get?_syncKind]
    have hkey : k = ⟨r.resource, kind, day⟩ ↔
        k.resource = r.resource ∧ k.day = day ∧ k.kind = kind := by
      cases k
      simp [and_comm]
    by_cases hhere : k.kind = kind
    · simp [hkey, hhere, hnodup.1]
    · simp [hkey, hhere]

/-- A report brings the recommended entries of its resource and day in line, and no other. -/
theorem get?_syncHistory : (syncHistory day h r).store.get? k =
    if (k.resource = r.resource ∧ k.day = day) ∧ ¬ h.isSealed then
      (h.store.get? k).map (·.inLine r)
    else h.store.get? k := by
  have hkinds : Kind.all.Nodup := by decide
  rw [syncHistory_eq, get?_foldl_syncKind hkinds]
  simp [Kind.mem_all]

/-- Reports of other resources, or of another day, leave an entry as it is. -/
theorem get?_foldl_syncHistory_of_ne (hother : ∀ r ∈ reports, k.resource = r.resource → k.day ≠ day) :
    (reports.foldl (syncHistory day) h).store.get? k = h.store.get? k := by
  induction reports generalizing h with
  | nil => rfl
  | cons r reports ih =>
    have hne : k.resource = r.resource → k.day ≠ day := hother r List.mem_cons_self
    rw [List.foldl_cons, ih fun s hs => hother s (List.mem_cons_of_mem _ hs), get?_syncHistory,
      if_neg fun hboth => hne hboth.1.1 hboth.1.2]

theorem get?_foldl_syncHistory_of_mem (hnodup : (reports.map (·.resource)).Nodup) (hr : r ∈ reports)
    (hk : k.resource = r.resource ∧ k.day = day) :
    (reports.foldl (syncHistory day) h).store.get? k =
      if h.isSealed then h.store.get? k else (h.store.get? k).map (·.inLine r) := by
  induction reports generalizing h with
  | nil => cases hr
  | cons s reports ih =>
    rw [List.map_cons, List.nodup_cons] at hnodup
    rw [List.foldl_cons]
    rcases List.mem_cons.mp hr with rfl | hlater
    · have hother : ∀ t ∈ reports, k.resource = t.resource → k.day ≠ day := fun t ht heq =>
        (hnodup.1 (hk.1 ▸ heq ▸ List.mem_map_of_mem ht)).elim
      rw [get?_foldl_syncHistory_of_ne hother, get?_syncHistory]
      cases h.isSealed <;> simp [hk]
    · have hne : k.resource ≠ s.resource := by
        rw [hk.1]
        exact fun heq => hnodup.1 (heq ▸ List.mem_map_of_mem hlater)
      have hbefore : (syncHistory day h s).store.get? k = h.store.get? k := by
        rw [get?_syncHistory, if_neg fun hboth => hne hboth.1.1]
      rw [ih hnodup.2 hlater, isSealed_syncHistory, hbefore]

/-- Reports of different resources bring a history in line once for all, in whatever order they come. -/
theorem foldl_syncHistory_perm {reports' : List (Report α)} (hnodup : (reports.map (·.resource)).Nodup)
    (hperm : reports'.Perm reports) :
    reports'.foldl (syncHistory day) h = reports.foldl (syncHistory day) h := by
  have hnodup' : (reports'.map (·.resource)).Nodup := (hperm.map _).nodup_iff.mpr hnodup
  refine History.Same.eq_of_keys ⟨?_, fun k => ?_⟩ ?_
  · rw [isSealed_foldl_syncHistory, isSealed_foldl_syncHistory]
  · by_cases hk : ∃ r ∈ reports, k.resource = r.resource ∧ k.day = day
    · obtain ⟨r, hr, hkey⟩ := hk
      rw [get?_foldl_syncHistory_of_mem hnodup' (hperm.mem_iff.mpr hr) hkey,
        get?_foldl_syncHistory_of_mem hnodup hr hkey]
    · have hother : ∀ r ∈ reports, k.resource = r.resource → k.day ≠ day :=
        fun r hr hresource hday => hk ⟨r, hr, hresource, hday⟩
      rw [get?_foldl_syncHistory_of_ne fun r hr => hother r (hperm.mem_iff.mp hr),
        get?_foldl_syncHistory_of_ne hother]
  · rw [keys_foldl_syncHistory, keys_foldl_syncHistory]

theorem foldl_syncHistory_twice (hnodup : (reports.map (·.resource)).Nodup) :
    reports.foldl (syncHistory day) (reports.foldl (syncHistory day) h) =
      reports.foldl (syncHistory day) h := by
  refine History.Same.eq_of_keys ⟨isSealed_foldl_syncHistory, fun k => ?_⟩ keys_foldl_syncHistory
  by_cases hk : ∃ r ∈ reports, k.resource = r.resource ∧ k.day = day
  · obtain ⟨r, hr, hkey⟩ := hk
    rw [get?_foldl_syncHistory_of_mem hnodup hr hkey, isSealed_foldl_syncHistory,
      get?_foldl_syncHistory_of_mem hnodup hr hkey]
    cases h.isSealed
    · rw [if_neg (by decide), if_neg (by decide), Option.map_map]
      exact congrArg (Option.map · _) (funext fun _ => Entry.inLine_inLine)
    · rfl
  · exact get?_foldl_syncHistory_of_ne fun r hr hresource hday => hk ⟨r, hr, hresource, hday⟩

end Group

end FleetSizing
