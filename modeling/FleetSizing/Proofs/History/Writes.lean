import FleetSizing.Proofs.Report.Decision
import Mathlib.Data.List.Perm.Basic

/-! What a history holds after a series of writes: under each key the last entry that was written. -/
namespace FleetSizing

variable {α : Type}

namespace History

variable {h h' : History α} {e : Entry α} {es es' : List (Entry α)} {k : EntryKey}

/-- The same entries under the same keys, in whatever order the keys came. -/
structure Same (h h' : History α) : Prop where
  isSealed_eq : h.isSealed = h'.isSealed
  get?_eq : ∀ k, h.store.get? k = h'.store.get? k

theorem Same.refl (h : History α) : h.Same h := ⟨rfl, fun _ => rfl⟩

theorem isSealed_upsert : (h.upsert e).isSealed = h.isSealed := by
  unfold upsert
  split <;> rfl

theorem get?_upsert : (h.upsert e).store.get? k =
    if e.key = k ∧ ¬ h.isSealed then some e else h.store.get? k := by
  unfold upsert
  split
  · rename_i hsealed
    simp [hsealed]
  · rename_i hopen
    simp [Keyed.get?_insert, hopen]

theorem Same.upsert (hsame : h.Same h') (e : Entry α) : (h.upsert e).Same (h'.upsert e) := by
  refine ⟨?_, fun k => ?_⟩
  · rw [isSealed_upsert, isSealed_upsert, hsame.isSealed_eq]
  · rw [get?_upsert, get?_upsert, hsame.isSealed_eq, hsame.get?_eq]

theorem isSealed_upsertAll : (h.upsertAll es).isSealed = h.isSealed := by
  unfold upsertAll
  induction es generalizing h with
  | nil => rfl
  | cons e es ih => rw [List.foldl_cons, ih, isSealed_upsert]

theorem get?_upsertAll : (h.upsertAll es).store.get? k =
    if h.isSealed then h.store.get? k
    else ((es.filter (·.key = k)).getLast?).or (h.store.get? k) := by
  unfold upsertAll
  induction es generalizing h with
  | nil => simp
  | cons e es ih =>
    rw [List.foldl_cons, ih, isSealed_upsert, get?_upsert]
    by_cases hsealed : h.isSealed
    · simp [hsealed]
    · by_cases hkey : e.key = k
      · simp [hsealed, hkey, List.getLast?_cons]
      · simp [hsealed, hkey]

/-- Only the order of the writes to one key matters. -/
theorem same_upsertAll (hes : ∀ k, es.filter (·.key = k) = es'.filter (·.key = k)) :
    (h.upsertAll es).Same (h.upsertAll es') := by
  refine ⟨?_, fun k => ?_⟩
  · rw [isSealed_upsertAll, isSealed_upsertAll]
  · rw [get?_upsertAll, get?_upsertAll, hes]

theorem Same.foldl {β : Type} {f : History α → β → History α}
    (hf : ∀ g g' b, Same g g' → Same (f g b) (f g' b)) (bs : List β) (hsame : h.Same h') :
    (bs.foldl f h).Same (bs.foldl f h') := by
  induction bs generalizing h h' with
  | nil => exact hsame
  | cons b bs ih => exact ih (hf _ _ b hsame)

theorem Same.syncHistory [Scalar α] (hsame : h.Same h') (day : Day) (r : Report α) :
    (Group.syncHistory day h r).Same (Group.syncHistory day h' r) := by
  apply hsame.foldl
  intro g g' kind hgs
  rw [History.get?, History.get?, hgs.get?_eq]
  split
  · split
    · exact hgs.upsert _
    · exact hgs
  · exact hgs

/-! Histories that hold the same are also read the same. -/
section

variable {a b c : Entry α}

theorem mem_values_iff {x : Entry α} : x ∈ h.store.values ↔ h.store.get? x.key = some x := by
  rw [Keyed.get?_eq_some_iff]
  exact (and_iff_left rfl).symm

theorem Same.perm_values (hsame : h.Same h') : h.store.values.Perm h'.store.values := by
  rw [List.perm_ext_iff_of_nodup (h.store.nodup.of_map _) (h'.store.nodup.of_map _)]
  intro x
  rw [mem_values_iff, mem_values_iff, hsame.get?_eq]

theorem entryBefore_iff : entryBefore a b ↔ a.resource < b.resource ∨ (a.resource = b.resource ∧
    (a.day.number < b.day.number ∨ (a.day.number = b.day.number ∧ a.kind.rank ≤ b.kind.rank))) := by
  simp [entryBefore, Day.eq_iff]

theorem resource_trichotomy (a b : String) : a < b ∨ a = b ∨ b < a := by
  by_cases hab : a < b
  · exact Or.inl hab
  · by_cases hba : b < a
    · exact Or.inr (Or.inr hba)
    · exact Or.inr (Or.inl (String.le_antisymm hba hab))

theorem entryBefore_total (a b : Entry α) : entryBefore a b || entryBefore b a := by
  rw [Bool.or_eq_true, entryBefore_iff, entryBefore_iff]
  rcases resource_trichotomy a.resource b.resource with hlt | heq | hgt
  · exact Or.inl (Or.inl hlt)
  · have hrest := Int.lt_trichotomy a.day.number b.day.number
    have hrank := Nat.le_total a.kind.rank b.kind.rank
    rw [heq]
    simp only [true_and]
    omega
  · exact Or.inr (Or.inl hgt)

theorem entryBefore_trans (a b c : Entry α) (hab : entryBefore a b) (hbc : entryBefore b c) :
    entryBefore a c := by
  rw [entryBefore_iff] at *
  rcases hab with hab | ⟨hab, hab'⟩ <;> rcases hbc with hbc | ⟨hbc, hbc'⟩
  · exact Or.inl (String.lt_trans hab hbc)
  · exact Or.inl (hbc ▸ hab)
  · exact Or.inl (hab ▸ hbc)
  · exact Or.inr ⟨hab.trans hbc, by omega⟩

theorem key_eq_of_entryBefore (hab : entryBefore a b) (hba : entryBefore b a) : a.key = b.key := by
  rw [entryBefore_iff] at *
  rcases hab with hab | ⟨hresource, hab⟩
  · rcases hba with hba | ⟨hba, -⟩
    · exact (String.lt_irrefl _ (String.lt_trans hab hba)).elim
    · exact (String.lt_irrefl _ (hba ▸ hab)).elim
  · rcases hba with hba | ⟨-, hba⟩
    · exact (String.lt_irrefl _ (hresource ▸ hba)).elim
    · have hday : a.day = b.day := Day.eq_iff.mpr (by omega)
      have hkind : a.kind = b.kind := Kind.rank_inj (by omega)
      simp only [Entry.key, hresource, hday, hkind]

theorem Same.entries_eq (hsame : h.Same h') : h.entries = h'.entries := by
  have hperm : h.entries.Perm h'.entries :=
    ((List.mergeSort_perm _ _).trans hsame.perm_values).trans (List.mergeSort_perm _ _).symm
  refine hperm.eq_of_pairwise ?_ (List.pairwise_mergeSort entryBefore_trans entryBefore_total _)
    (List.pairwise_mergeSort entryBefore_trans entryBefore_total _)
  intro a b ha hb hab hba
  have ha' : a ∈ h.store.values := List.mem_mergeSort.mp ha
  have hb' : b ∈ h.store.values := hsame.perm_values.mem_iff.mpr (List.mem_mergeSort.mp hb)
  exact List.inj_on_of_nodup_map h.store.nodup ha' hb' (key_eq_of_entryBefore hab hba)

end

end History

namespace Report

variable {r : Report α}

theorem resource_of_mem_entries [Scalar α] {c : EntryContext α} {e : Entry α} (h : e ∈ r.entries c) :
    e.resource = r.resource := by
  obtain ⟨a, -, ha⟩ := List.mem_filterMap.mp h
  obtain ⟨kind, -, rfl⟩ := Option.map_eq_some_iff.mp ha
  rfl

theorem resource_withoutPostponed [Scalar α] (p : Postponement) :
    (r.withoutPostponed p).resource = r.resource := by
  unfold withoutPostponed
  simp only
  split
  · rfl
  · rw [resource_settled]

end Report

namespace Engine

variable [Scalar α] {e : Engine α} {r : Resource} {current : Shape α} {x : Entry α}

theorem resource_decide (samples : List (Sample α)) : (e.decide r samples current).1.resource = r.id := by
  unfold decide
  simp only
  split
  · rfl
  · rw [Report.resource_settled]

theorem resource_process {p : Option Postponement} {b : Batch α} {c : Completed α}
    (h : e.process r p b = .ok c) : c.report.resource = r.id := by
  obtain ⟨samples, current, -, hreport, -⟩ := process_eq_ok h
  have hpriced : (e.price r current (e.decide r samples current).1).resource = r.id :=
    resource_decide samples
  rw [hreport]
  cases p with
  | none => exact hpriced
  | some p => exact (Report.resource_withoutPostponed p).trans hpriced

theorem resource_of_mem_entries {p : Option Postponement} {report : Report α}
    (h : x ∈ e.entries r p current report) : x.resource = report.resource := by
  rcases List.mem_append.mp h with h | h
  · exact Report.resource_of_mem_entries h
  · cases p with
    | none => cases h
    | some p =>
      obtain ⟨k, -, rfl⟩ := List.mem_map.mp h
      rfl

/-- A task only writes history of its own resource. -/
theorem resource_of_mem_history {read : String → Except EngineError (Batch α)}
    (h : x ∈ (e.run read r).history) : x.resource = r.id := by
  simp only [run, runM, pure_bind] at h
  split at h
  · cases h
  · split at h
    · obtain ⟨k, -, rfl⟩ := List.mem_map.mp h
      rfl
    · split at h
      · cases h
      · split at h
        · rename_i done hdone
          obtain ⟨samples, current, -, -, hhistory⟩ := process_eq_ok hdone
          have hmem : x ∈ done.history := h
          rw [hhistory] at hmem
          rw [resource_of_mem_entries hmem, resource_process hdone]
        · cases h

end Engine

end FleetSizing
