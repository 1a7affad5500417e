import FleetSizing.Proofs.Group.Settled
import FleetSizing.Proofs.Report.Entries

/-! What a reconciliation leaves in the history. It rewrites what was recommended for the members that day,
and nothing else. -/
namespace FleetSizing

variable {α : Type}

namespace Entry

variable [Scalar α] {t : Report α} {e : Entry α} {kind : Kind}

/-- Says of a kind what the one entry that the report is recorded by says, and that nothing is recommended if
there is none. -/
def Tells (e : Entry α) (t : Report α) (kind : Kind) : Prop :=
  (∀ a ∈ t.actions, a.kind? ≠ some kind) ∧ e.action = .noAction ∧ e.target = none ∧ e.savings = [] ∨
    ∀ c, ∃ x, (t.entries c).filter (·.kind = kind) = [x] ∧
      e.action = x.action ∧ e.target = x.target ∧ e.savings = x.savings

theorem filter_kind_entries (h : (t.actions.filterMap Action.kind?).Nodup) (c : EntryContext α) :
    (t.entries c).filter (·.kind = kind) = ((t.actionOf? kind).bind (ofAction? t c)).toList := by
  rw [← Report.filter_entries h]
  refine List.filter_congr fun x hx => ?_
  obtain ⟨a, -, ha⟩ := List.mem_filterMap.mp hx
  obtain ⟨kind', -, rfl⟩ := Option.map_eq_some_iff.mp ha
  simp [key]

theorem tells_syncWith (h : (t.actions.filterMap Action.kind?).Nodup) : (e.syncWith t).Tells t e.kind := by
  unfold syncWith
  cases haction : t.actionOf? e.kind with
  | none =>
    refine Or.inl ⟨fun a ha hkind => ?_, rfl, rfl, rfl⟩
    exact List.find?_eq_none.mp haction a ha (by simp [hkind])
  | some a =>
    refine Or.inr fun c => ?_
    obtain ⟨x, hx, haction', htarget, hsavings⟩ : ∃ x, ofAction? t c a = some x ∧ x.action = a ∧
        x.target = t.targetOf? a ∧ x.savings = t.savingsOf a := by
      rw [ofAction?, Report.kind_of_actionOf? haction]
      exact ⟨_, rfl, rfl, rfl, rfl⟩
    refine ⟨x, ?_, haction'.symm, htarget.symm, hsavings.symm⟩
    rw [filter_kind_entries h, haction, Option.bind_some, hx]
    rfl

/-- Only what is recommended is rewritten. -/
theorem syncWith_eq : e.syncWith t = { e with
    action := (e.syncWith t).action
    target := (e.syncWith t).target
    savings := (e.syncWith t).savings } := by
  unfold syncWith
  split <;> rfl

end Entry

namespace Group

/-- Is a recommendation of that day for a member that takes part. -/
def Concerns (day : Day) (reports : List (Report α)) (e : Entry α) : Prop :=
  e.status = .recommended ∧ e.day = day ∧ ∃ r ∈ reports, r.status = .success ∧ r.resource = e.resource

variable [Scalar α] {day : Day} {history : History α} {reports : List (Report α)} {k : EntryKey}
  {e : Entry α}

theorem foldl_syncHistory_of_isSealed (h : history.isSealed) :
    reports.foldl (syncHistory day) history = history := by
  have hwrite : ∀ (g : History α) x, g = history → g.upsert x = history := by
    rintro _ x rfl
    exact if_pos h
  exact List.foldlRecOn (motive := fun g => g = history) reports (syncHistory day) rfl
    fun _ hg _ _ => syncHistory_of_upsert hwrite hg

theorem exists_agreed {r : Report α} (hr : r ∈ reports) (hstatus : r.status = .success) :
    ∃ t ∈ agreed reports, t.resource = r.resource ∧ t.status = .success :=
  ⟨_, List.mem_map_of_mem (List.mem_filter.mpr ⟨hr, by simp [hstatus]⟩), resource_agree,
    status_agree.trans hstatus⟩

theorem exists_of_mem_agreed {t : Report α} (ht : t ∈ agreed reports) :
    ∃ r ∈ reports, r.status = .success ∧ r.resource = t.resource := by
  obtain ⟨r, hr, rfl⟩ := List.mem_map.mp ht
  obtain ⟨hmem, hstatus⟩ := List.mem_filter.mp hr
  exact ⟨r, hmem, by simpa using hstatus, resource_agree.symm⟩

theorem get?_agreed_of_not_concerns (hnodup : (reports.map (·.resource)).Nodup)
    (hother : ∀ e, history.store.get? k = some e → ¬ Concerns day reports e) :
    ((agreed reports).foldl (syncHistory day) history).store.get? k = history.store.get? k := by
  by_cases hmember : ∃ t ∈ agreed reports, k.resource = t.resource ∧ k.day = day
  · obtain ⟨t, ht, hkey⟩ := hmember
    rw [get?_foldl_syncHistory_of_mem (nodup_agreed hnodup) ht hkey]
    split
    · rfl
    · cases hfound : history.store.get? k with
      | none => rfl
      | some e =>
        obtain rfl : e.key = k := (Keyed.get?_eq_some_iff.mp hfound).2
        obtain ⟨r, hr, hstatus, hresource⟩ := exists_of_mem_agreed ht
        have hpostponed : e.status ≠ .recommended := fun hstatus' =>
          hother e hfound ⟨hstatus', hkey.2, r, hr, hstatus, hresource.trans hkey.1.symm⟩
        rw [Option.map_some, Entry.inLine, if_neg hpostponed]
  · exact get?_foldl_syncHistory_of_ne fun t ht hresource hday => hmember ⟨t, ht, hresource, hday⟩

theorem get?_agreed_of_concerns (hnodup : (reports.map (·.resource)).Nodup) (hopen : ¬ history.isSealed)
    (hfound : history.store.get? k = some e) (h : Concerns day reports e) :
    ∃ t ∈ agreed reports, t.resource = k.resource ∧ t.status = .success ∧
      ((agreed reports).foldl (syncHistory day) history).store.get? k = some (e.syncWith t) := by
  obtain rfl : e.key = k := (Keyed.get?_eq_some_iff.mp hfound).2
  obtain ⟨hstatus, hday, r, hr, hsuccess, hresource⟩ := h
  obtain ⟨t, ht, htresource, htstatus⟩ := exists_agreed hr hsuccess
  have hkey : e.key.resource = t.resource ∧ e.key.day = day :=
    ⟨(htresource.trans hresource).symm, hday⟩
  refine ⟨t, ht, hkey.1.symm, htstatus, ?_⟩
  rw [get?_foldl_syncHistory_of_mem (nodup_agreed hnodup) ht hkey, if_neg hopen, hfound,
    Option.map_some, Entry.inLine, if_pos hstatus]

/-- A reconciliation adds no entry and leaves those alone that do not concern it. The others keep all but
what is recommended, and that is what the report as reconciled is recorded by. -/
theorem reconcile_frame (day : Day) (history : History α) {reports : List (Report α)}
    (hnodup : (reports.map (·.resource)).Nodup)
    (hkinds : ∀ t ∈ (reconcile day history reports).1, t.status = .success →
      (t.actions.filterMap Action.kind?).Nodup) :
    let reconciled := reconcile day history reports
    reconciled.2.1.keys = history.keys ∧
    (∀ k, (∀ e, history.store.get? k = some e → ¬ Concerns day reports e) →
      reconciled.2.1.store.get? k = history.store.get? k) ∧
    (history.isSealed → reconciled.2.1 = history) ∧
    (¬ history.isSealed → ∀ k e, history.store.get? k = some e → Concerns day reports e →
      ∃ t ∈ reconciled.1, t.resource = k.resource ∧ t.status = .success ∧
      ∃ e', reconciled.2.1.store.get? k = some e' ∧ e'.Tells t k.kind ∧
        e' = { e with action := e'.action, target := e'.target, savings := e'.savings }) := by
  intro reconciled
  have hhistory : reconciled.2.1 = (agreed reports).foldl (syncHistory day) history := history_reconcile
  have hactive : reconciled.1.filter (·.status == .success) = agreed reports := active_reconcile hnodup
  rw [hhistory]
  refine ⟨keys_foldl_syncHistory, fun k hother => get?_agreed_of_not_concerns hnodup hother,
    foldl_syncHistory_of_isSealed, fun hopen k e hfound hconcerns => ?_⟩
  obtain ⟨t, ht, hresource, hstatus, hentry⟩ := get?_agreed_of_concerns hnodup hopen hfound hconcerns
  have hmem : t ∈ reconciled.1 := (List.mem_filter.mp (hactive.symm ▸ ht)).1
  have hkind : e.kind = k.kind := congrArg EntryKey.kind (Keyed.get?_eq_some_iff.mp hfound).2
  refine ⟨t, hmem, hresource, hstatus, e.syncWith t, hentry, ?_, Entry.syncWith_eq⟩
  exact hkind ▸ Entry.tells_syncWith (hkinds t hmem hstatus)

namespace Trio

def entry (kind : Kind) (status : EntryStatus) : Entry Rat :=
  { (default : Entry Rat) with
    resource := "i-2"
    kind
    currentShape := some "m5.large"
    action := .schedule
    status }

def recorded : History Rat := History.empty.upsertAll [entry .schedule .recommended, entry .resize .postponed]

end Trio

theorem reconcile_frame_trio :
    let trio : List (Report Rat) := [Trio.growing, Trio.short, Trio.long]
    let reconciled := reconcile default Trio.recorded trio
    (trio.map (·.resource)).Nodup ∧
      (∀ t ∈ reconciled.1, t.status = .success → (t.actions.filterMap Action.kind?).Nodup) ∧
      reconciled.2.1.store.get? ⟨"i-2", .resize, default⟩ = some (Trio.entry .resize .postponed) ∧
      reconciled.2.1.store.get? ⟨"i-2", .schedule, default⟩ =
        some { Trio.entry .schedule .recommended with action := .noAction } := by
  intro trio reconciled
  have hnodup : (trio.map (·.resource)).Nodup := by decide
  have hkinds : ∀ t ∈ reconciled.1, t.status = .success → (t.actions.filterMap Action.kind?).Nodup := by
    decide +kernel
  obtain ⟨-, hframe, -, htold⟩ := reconcile_frame default Trio.recorded hnodup hkinds
  refine ⟨hnodup, hkinds, ?_, ?_⟩
  · refine (hframe ⟨"i-2", .resize, default⟩ fun e he hconcerns => ?_).trans rfl
    obtain rfl := Option.some.inj he
    cases hconcerns.1
  · obtain ⟨t, ht, hresource, -, e', he', htells, hkept⟩ := htold (by decide) ⟨"i-2", .schedule, default⟩
      (Trio.entry .schedule .recommended) rfl ⟨rfl, rfl, Trio.short, by simp [trio], rfl, rfl⟩
    have hidle : ∀ t ∈ reconciled.1, t.resource = "i-2" → t.actions = [.noAction] := by decide +kernel
    have hactions : t.actions = [.noAction] := hidle t ht hresource
    rcases htells with ⟨-, haction, htarget, hsavings⟩ | hrecorded
    · rw [he', hkept, haction, htarget, hsavings]
      rfl
    · obtain ⟨x, hx, -⟩ := hrecorded ⟨default, "", none⟩
      rw [Report.entries, hactions] at hx
      cases hx

end Group

end FleetSizing
