import FleetSizing.Proofs.History.Writes
import FleetSizing.Proofs.Keyed
import Mathlib.Data.Finset.Card

/-! How a history that starts out empty is read after any writes: it holds the last entry written under
each key, in the order of the keys. -/
namespace FleetSizing

variable {α : Type}

namespace Entry

variable {es : List (Entry α)} {a b e : Entry α}

/-- Written, and no entry with its key written later. -/
def LatestOf (es : List (Entry α)) (e : Entry α) : Prop :=
  ∃ earlier later, es = earlier ++ e :: later ∧ ∀ x ∈ later, x.key ≠ e.key

/-- Of an earlier day, or of the same day and an earlier kind. -/
def Earlier (a b : Entry α) : Prop :=
  a.day.number < b.day.number ∨ (a.day.number = b.day.number ∧ a.kind.rank < b.kind.rank)

/-- Ordered by resource, then by day and kind. -/
def Precedes (a b : Entry α) : Prop :=
  a.resource < b.resource ∨ (a.resource = b.resource ∧ a.Earlier b)

theorem latestOf_iff : e.LatestOf es ↔ (es.filter (·.key = e.key)).getLast? = some e := by
  have hlast : e.LatestOf es ↔ IsLast (·.key = e.key) es e := (and_iff_right rfl).symm
  rw [hlast, isLast_iff]

/-- Entries of different keys in order are strictly in order. -/
theorem precedes_of_entryBefore (h : History.entryBefore a b) (hkey : a.key ≠ b.key) : a.Precedes b := by
  rcases History.entryBefore_iff.mp h with hlt | ⟨hresource, hlt | ⟨hday, hle⟩⟩
  · exact Or.inl hlt
  · exact Or.inr ⟨hresource, Or.inl hlt⟩
  · refine Or.inr ⟨hresource, Or.inr ⟨hday, lt_of_le_of_ne hle fun hrank => hkey ?_⟩⟩
    simp only [key, hresource, Day.eq_iff.mpr hday, Kind.rank_inj hrank]

/-- Entries of one resource precede each other by day and kind alone. -/
theorem Precedes.earlier (h : a.Precedes b) (hresource : a.resource = b.resource) : a.Earlier b := by
  rcases h with hlt | ⟨-, hearlier⟩
  · exact (String.lt_irrefl _ (hresource ▸ hlt)).elim
  · exact hearlier

end Entry

namespace History

variable {h : History α} {es : List (Entry α)} {e : Entry α} {k : EntryKey}

theorem get?_empty_upsertAll :
    (empty.upsertAll es).store.get? k = (es.filter (·.key = k)).getLast? := by
  rw [get?_upsertAll]
  simp [empty, Keyed.get?, Keyed.empty]

theorem mem_values_upsertAll : e ∈ (empty.upsertAll es).store.values ↔ e.LatestOf es := by
  rw [mem_values_iff, get?_empty_upsertAll, Entry.latestOf_iff]

theorem get?_eq_none_iff : (empty.upsertAll es).store.get? k = none ↔ ∀ e ∈ es, e.key ≠ k := by
  rw [get?_empty_upsertAll, getLast?_filter_eq_none_iff]

theorem mem_keys_upsertAll : k ∈ (empty.upsertAll es).store.values.map Entry.key ↔ k ∈ es.map Entry.key := by
  have hfound : k ∈ (empty.upsertAll es).store.values.map Entry.key ↔
      (empty.upsertAll es).store.get? k ≠ none := by
    simp only [Option.ne_none_iff_exists', Keyed.get?_eq_some_iff, List.mem_map]
  rw [hfound, Ne, get?_eq_none_iff]
  simp

theorem size_upsertAll : (empty.upsertAll es).size = (es.map Entry.key).toFinset.card := by
  have hsame : ((empty.upsertAll es).store.values.map Entry.key).toFinset = (es.map Entry.key).toFinset := by
    ext k
    rw [List.mem_toFinset, List.mem_toFinset, mem_keys_upsertAll]
  rw [← hsame, List.toFinset_card_of_nodup (empty.upsertAll es).store.nodup, List.length_map]
  rfl

theorem mem_entries : e ∈ h.entries ↔ e ∈ h.store.values := List.mem_mergeSort

theorem mem_forResource {resource : String} :
    e ∈ h.forResource resource ↔ e ∈ h.store.values ∧ e.resource = resource := by
  rw [forResource, List.mem_mergeSort, List.mem_filter, beq_iff_eq]

theorem nodup_keys_entries (h : History α) : (h.entries.map Entry.key).Nodup :=
  ((List.mergeSort_perm _ _).map _).nodup_iff.mpr h.store.nodup

theorem nodup_keys_forResource (h : History α) (resource : String) :
    ((h.forResource resource).map Entry.key).Nodup :=
  ((List.mergeSort_perm _ _).map _).nodup_iff.mpr (h.store.nodup.sublist (List.filter_sublist.map _))

theorem pairwise_entries (h : History α) : h.entries.Pairwise Entry.Precedes := by
  have hordered := List.pairwise_mergeSort entryBefore_trans entryBefore_total h.store.values
  exact (List.Pairwise.and hordered (List.pairwise_map.mp h.nodup_keys_entries)).imp fun hboth =>
    Entry.precedes_of_entryBefore hboth.1 hboth.2

/-- Entries of one resource are told apart and put in order by day and kind. -/
theorem pairwise_forResource (h : History α) (resource : String) :
    (h.forResource resource).Pairwise Entry.Earlier := by
  have hordered : (h.forResource resource).Pairwise fun a b => (a.day.number < b.day.number ||
      (a.day == b.day && a.kind.rank ≤ b.kind.rank) : Bool) := by
    apply List.pairwise_mergeSort
    · intro a b c
      simp only [Bool.or_eq_true, Bool.and_eq_true, decide_eq_true_eq, beq_iff_eq, Day.eq_iff]
      omega
    · intro a b
      simp only [Bool.or_eq_true, Bool.and_eq_true, decide_eq_true_eq, beq_iff_eq, Day.eq_iff]
      omega
  have hkeys := List.pairwise_map.mp (h.nodup_keys_forResource resource)
  refine (List.Pairwise.and hordered hkeys).imp_of_mem fun {a b} ha hb hboth => ?_
  have hresource : a.resource = b.resource :=
    (mem_forResource.mp ha).2.trans (mem_forResource.mp hb).2.symm
  have hbefore : entryBefore a b := by
    simpa [entryBefore, hresource, String.lt_irrefl] using hboth.1
  exact (Entry.precedes_of_entryBefore hbefore hboth.2).earlier hresource

/-- After any writes, each way of reading a history shows the last entry written under each key: alone by its
key, together in the order of resource, day and kind, and for one resource in the order of day and kind. -/
theorem upsertAll_shows_latest (es : List (Entry α)) :
    let h := empty.upsertAll es
    (∀ resource kind day e, h.get? resource kind day = some e ↔
      e.LatestOf es ∧ e.key = ⟨resource, kind, day⟩) ∧
    (∀ resource kind day, h.get? resource kind day = none ↔
      ∀ e ∈ es, e.key ≠ ⟨resource, kind, day⟩) ∧
    (∀ e, e ∈ h.entries ↔ e.LatestOf es) ∧
    h.entries.Pairwise Entry.Precedes ∧ (h.entries.map Entry.key).Nodup ∧
    (∀ resource, (∀ e, e ∈ h.forResource resource ↔ e.LatestOf es ∧ e.resource = resource) ∧
      (h.forResource resource).Pairwise Entry.Earlier) ∧
    h.size = (es.map Entry.key).toFinset.card := by
  refine ⟨fun _ _ _ e => ?_, fun _ _ _ => get?_eq_none_iff, fun e => ?_, pairwise_entries _,
    nodup_keys_entries _, fun resource => ⟨fun e => ?_, pairwise_forResource _ resource⟩, size_upsertAll⟩
  · rw [get?, Keyed.get?_eq_some_iff, mem_values_upsertAll]
  · rw [mem_entries, mem_values_upsertAll]
  · rw [mem_forResource, mem_values_upsertAll]

end History

end FleetSizing
