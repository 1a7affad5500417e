import FleetSizing.Document.Job
import FleetSizing.Proofs.Distinct
import FleetSizing.Proofs.Keyed
import Mathlib.Algebra.BigOperators.Group.Finset.Basic

/-! The rows of a job document are read resource by resource: each row once, for the resource it belongs to. -/
namespace FleetSizing

variable {α : Type}

section

variable {xs ys : List (Sample α)}

/-- Sorting by time moves no row past another of its time. -/
theorem filter_byTime (xs : List (Sample α)) (t : Int) :
    (byTime xs).filter (·.timestamp = t) = xs.filter (·.timestamp = t) := by
  have hpair : (xs.filter (·.timestamp = t)).Pairwise fun a b => decide (a.timestamp ≤ b.timestamp) := by
    refine List.pairwise_of_forall_mem_list fun a ha b hb => ?_
    have ha' : a.timestamp = t := by simpa using (List.mem_filter.mp ha).2
    have hb' : b.timestamp = t := by simpa using (List.mem_filter.mp hb).2
    exact decide_eq_true (ha'.trans hb'.symm).le
  have hsub : (xs.filter (·.timestamp = t)).Sublist (byTime xs) :=
    List.sublist_mergeSort timestamp_le_trans timestamp_le_total hpair List.filter_sublist
  have hkept : (xs.filter (·.timestamp = t)).Sublist ((byTime xs).filter (·.timestamp = t)) := by
    simpa using hsub.filter (·.timestamp = t)
  refine (hkept.eq_of_length ?_).symm
  exact ((List.mergeSort_perm xs _).filter _).length_eq.symm

theorem mem_iff_of_filter_timestamp (h : ∀ t, xs.filter (·.timestamp = t) = ys.filter (·.timestamp = t))
    (z : Sample α) : z ∈ xs ↔ z ∈ ys := by
  simpa using congrArg (z ∈ ·) (h z.timestamp)

/-- Rows in order of time are told by the rows of each time. -/
theorem eq_of_filter_timestamp (hxs : xs.Pairwise fun a b => a.timestamp ≤ b.timestamp)
    (hys : ys.Pairwise fun a b => a.timestamp ≤ b.timestamp)
    (h : ∀ t, xs.filter (·.timestamp = t) = ys.filter (·.timestamp = t)) : xs = ys := by
  induction xs generalizing ys with
  | nil =>
    rw [eq_comm, List.eq_nil_iff_forall_not_mem]
    exact fun z hz => List.not_mem_nil ((mem_iff_of_filter_timestamp h z).mpr hz)
  | cons x xs ih =>
    have hmem := mem_iff_of_filter_timestamp h
    cases ys with
    | nil => exact absurd ((hmem x).mp List.mem_cons_self) List.not_mem_nil
    | cons y ys =>
      obtain ⟨hx, hxs'⟩ := List.pairwise_cons.mp hxs
      obtain ⟨hy, hys'⟩ := List.pairwise_cons.mp hys
      have hxy : x.timestamp ≤ y.timestamp := by
        rcases List.mem_cons.mp ((hmem y).mpr List.mem_cons_self) with rfl | hin
        · exact Int.le_refl _
        · exact hx y hin
      have hyx : y.timestamp ≤ x.timestamp := by
        rcases List.mem_cons.mp ((hmem x).mp List.mem_cons_self) with rfl | hin
        · exact Int.le_refl _
        · exact hy x hin
      have htime : y.timestamp = x.timestamp := Int.le_antisymm hyx hxy
      -- Both lists start with the first row of the earliest time.
      obtain ⟨rfl, -⟩ : x = y ∧ xs.filter (·.timestamp = x.timestamp) = ys.filter (·.timestamp = x.timestamp) := by
        simpa [htime] using h x.timestamp
      have hrest : ∀ t, xs.filter (·.timestamp = t) = ys.filter (·.timestamp = t) := by
        intro t
        by_cases ht : x.timestamp = t
        · simpa [ht] using h t
        · simpa [ht] using h t
      rw [ih hxs' hys' hrest]

end

namespace Source

variable {columns : Option (List String)} {rows : List (Sample α)} {id : String} {s : Series α}

theorem get?_ofRows : (ofRows columns rows).get? id = some s ↔
    id ∈ rows.map (·.resource) ∧ s = ⟨id, columns.getD standardColumns, rows.filter (·.resource == id)⟩ := by
  rw [ofRows, Keyed.get?_ofList_of_nodup]
  · simp only [List.mem_map, List.mem_eraseDups]
    constructor
    · rintro ⟨⟨r, hr, rfl⟩, rfl⟩
      exact ⟨hr, rfl⟩
    · rintro ⟨hid, rfl⟩
      exact ⟨⟨id, hid, rfl⟩, rfl⟩
  · rw [List.map_map]
    exact (List.map_id _).symm ▸ nodup_eraseDups (rows.map (·.resource))

theorem read_of_mem (h : id ∈ rows.map (·.resource)) : (ofRows columns rows).read id =
    .ok ⟨columns.getD standardColumns, byTime (rows.filter (·.resource == id))⟩ := by
  rw [read, get?_ofRows.mpr ⟨h, rfl⟩]

theorem read_of_not_mem (h : id ∉ rows.map (·.resource)) : (ofRows columns rows).read id =
    .error (.metricSource ("no metrics found for resource " ++ id)) := by
  have hnone : (ofRows columns rows).get? id = none := by
    rw [Option.eq_none_iff_forall_ne_some]
    exact fun s hs => h (get?_ofRows.mp hs).1
  rw [read, hnone]

end Source

namespace JobDocument

variable {d : JobDocument α} {id : String} {b : Batch α} {e : EngineError}

/-- What a resource is read as: its rows, ascending by time and those of one time as the document has them, under
the columns of the document or all standard ones. -/
structure IsRead (d : JobDocument α) (id : String) (b : Batch α) : Prop where
  columns : b.columns = d.columns.getD standardColumns
  perm : b.samples.Perm (d.samples.filter (·.resource = id))
  ordered : b.samples.Pairwise fun x y => x.timestamp ≤ y.timestamp
  stable : ∀ t, b.samples.filter (·.timestamp = t) =
    (d.samples.filter (·.resource = id)).filter (·.timestamp = t)

theorem isRead_iff : d.IsRead id b ↔
    b = ⟨d.columns.getD standardColumns, byTime (d.samples.filter (·.resource = id))⟩ := by
  constructor
  · intro h
    obtain ⟨columns, samples⟩ := b
    have hsamples : samples = byTime (d.samples.filter (·.resource = id)) :=
      eq_of_filter_timestamp h.ordered (pairwise_byTime _) fun t => by rw [filter_byTime, h.stable]
    rw [hsamples, show columns = d.columns.getD standardColumns from h.columns]
  · rintro rfl
    exact ⟨rfl, List.mergeSort_perm _ _, pairwise_byTime _, filter_byTime _⟩

theorem read_eq_ok_iff : d.source.read id = .ok b ↔ id ∈ d.samples.map (·.resource) ∧ d.IsRead id b := by
  rw [isRead_iff, source]
  by_cases hid : id ∈ d.samples.map (·.resource)
  · rw [Source.read_of_mem hid, Except.ok.injEq, eq_comm]
    exact (and_iff_right hid).symm
  · rw [Source.read_of_not_mem hid]
    exact ⟨nofun, fun h => absurd h.1 hid⟩

theorem read_eq_error_iff : d.source.read id = .error e ↔
    id ∉ d.samples.map (·.resource) ∧ e = .metricSource ("no metrics found for resource " ++ id) := by
  rw [source]
  by_cases hid : id ∈ d.samples.map (·.resource)
  · rw [Source.read_of_mem hid]
    exact ⟨nofun, fun h => absurd hid h.1⟩
  · rw [Source.read_of_not_mem hid, Except.error.injEq, eq_comm]
    exact (and_iff_right hid).symm

/-- How many rows are read for a resource; none where reading fails. -/
def rowCount (d : JobDocument α) (id : String) : Nat :=
  match d.source.read id with
  | .ok b => b.samples.length
  | .error _ => 0

theorem rowCount_eq (d : JobDocument α) (id : String) :
    d.rowCount id = (d.samples.map (·.resource)).count id := by
  unfold rowCount
  split
  · rename_i b hb
    rw [(read_eq_ok_iff.mp hb).2.perm.length_eq, List.count, List.countP_map, List.countP_eq_length_filter]
    rfl
  · rename_i e he
    exact (List.count_eq_zero.mpr (read_eq_error_iff.mp he).1).symm

theorem sum_rowCount {ids : Finset String} (h : ∀ x ∈ d.samples, x.resource ∈ ids) :
    ∑ id ∈ ids, d.rowCount id = d.samples.length := by
  have hids : ∀ id ∈ (d.samples.map (·.resource) : Multiset String), id ∈ ids := by
    simpa using h
  simpa [rowCount_eq] using Multiset.sum_count_eq_card hids

/-- The rows of a document are read by resource. A resource that has rows is read as all of them, and every other
one fails to be read; over any resources that include those of all rows, as many rows are read as the document
has. -/
theorem source_splits_rows (d : JobDocument α) :
    (∀ id b, d.source.read id = .ok b ↔ id ∈ d.samples.map (·.resource) ∧ d.IsRead id b) ∧
    (∀ id, id ∈ d.samples.map (·.resource) → ∃ b, d.source.read id = .ok b) ∧
    (∀ id e, d.source.read id = .error e ↔ id ∉ d.samples.map (·.resource) ∧
      e = .metricSource ("no metrics found for resource " ++ id)) ∧
    ∀ ids : Finset String, (∀ x ∈ d.samples, x.resource ∈ ids) →
      ∑ id ∈ ids, d.rowCount id = d.samples.length :=
  ⟨fun _ _ => read_eq_ok_iff, fun _ hid => ⟨_, Source.read_of_mem hid⟩, fun _ _ => read_eq_error_iff,
    fun _ => sum_rowCount⟩

end JobDocument

/-! Rows of two resources among each other, two of them of one time. -/
namespace Interleaved

def row (resource : String) (t : Int) (cpu : Rat) : Sample Rat := ⟨resource, "m5.large", t, cpu, 50, -1, -1, -1⟩

def document : JobDocument Rat :=
  { (default : JobDocument Rat) with
    columns := none
    samples := [row "i-2" 600 1, row "i-1" 600 2, row "i-2" 0 3, row "i-2" 600 4] }

end Interleaved

theorem source_splits_rows_interleaved :
    (∀ x ∈ Interleaved.document.samples, x.resource ∈ ({"i-1", "i-2", "i-3"} : Finset String)) ∧
      ∑ id ∈ {"i-1", "i-2", "i-3"}, Interleaved.document.rowCount id = 4 ∧
      "i-2" ∈ Interleaved.document.samples.map (·.resource) ∧
      (∃ b, Interleaved.document.source.read "i-2" = .ok b) ∧
      Interleaved.document.source.read "i-2" = .ok ⟨standardColumns,
        [Interleaved.row "i-2" 0 3, Interleaved.row "i-2" 600 1, Interleaved.row "i-2" 600 4]⟩ := by
  have hids : ∀ x ∈ Interleaved.document.samples, x.resource ∈ ({"i-1", "i-2", "i-3"} : Finset String) := by
    decide
  have hrows : "i-2" ∈ Interleaved.document.samples.map (·.resource) := by decide
  obtain ⟨hok, hreads, -, hcount⟩ := Interleaved.document.source_splits_rows
  have hown : Interleaved.document.samples.filter (·.resource = "i-2") =
      [Interleaved.row "i-2" 600 1, Interleaved.row "i-2" 0 3, Interleaved.row "i-2" 600 4] := rfl
  refine ⟨hids, hcount _ hids, hrows, hreads _ hrows, (hok _ _).mpr ⟨hrows, rfl, ?_, by decide, fun t => ?_⟩⟩
  · rw [hown]
    exact List.Perm.swap _ _ _
  · rw [hown]
    by_cases ht : t = 600
    · subst ht
      rfl
    · simp [Interleaved.row, List.filter_cons, Ne.symm ht]

end FleetSizing
