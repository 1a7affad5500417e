import FleetSizing.Proofs.Distinct
import FleetSizing.Proofs.Schedule.Cells
import Mathlib.Data.Finset.Card

/-! What a cell counts: the calendar weeks in which some sample, and some busy sample, falls into its slot. How
often a sample is delivered, and in which order, does not matter. -/
namespace FleetSizing

theorem length_eraseDups_eq_card {β : Type} [BEq β] [LawfulBEq β] [DecidableEq β] {xs : List β}
    {members : Finset β} (h : ∀ x, x ∈ xs ↔ x ∈ members) : xs.eraseDups.length = members.card := by
  rw [← List.toFinset_card_of_nodup (nodup_eraseDups xs)]
  congr 1
  ext x
  rw [List.mem_toFinset, List.mem_eraseDups, h]

/-- Weeks have the same year and number exactly if they start on the same Monday. -/
theorem Day.isoWeek_eq_iff (a b : Day) : a.isoWeek = b.isoWeek ↔ (a.number + 3) / 7 = (b.number + 3) / 7 := by
  have hthursday : ∀ d : Day, d.thursday = ⟨7 * ((d.number + 3) / 7)⟩ := fun d => by
    rw [thursday, Int.fdiv_eq_ediv_of_nonneg _ (by decide)]
  constructor
  · intro h
    obtain ⟨hyear, hnumber⟩ := Prod.mk.inj h
    rw [hyear, hthursday a, hthursday b] at hnumber
    simp only at hnumber
    omega
  · intro h
    rw [isoWeek, isoWeek, hthursday a, hthursday b, h]

namespace Cell

variable {marks marks' : List ((Int × Int) × Bool)}

theorem ofWeeks_congr (h : ∀ m, m ∈ marks ↔ m ∈ marks') : ofWeeks marks = ofWeeks marks' := by
  rw [ofWeeks, ofWeeks, Cell.mk.injEq]
  constructor
  · apply length_eraseDups_congr
    simp only [List.mem_map, h, implies_true]
  · apply length_eraseDups_congr
    simp only [List.mem_map, List.mem_filter, h, implies_true]

end Cell

namespace Grid

theorem ext_cells {g h : Grid} (hstep : g.step = h.step) (hcells : g.cells = h.cells) : g = h := by
  cases g
  cases h
  cases hstep
  cases hcells
  rfl

variable {α : Type} {samples samples' : List (Sample α)} {step : Nat} {day : Weekday} {slot : Nat}

/-- The weeks in which some sample falls into a slot. -/
def weeksIn (samples : List (Sample α)) (step : Nat) (day : Weekday) (slot : Nat) : Finset (Int × Int) :=
  ((samples.filter fun s => slot? step s = some (day, slot)).filterMap week?).toFinset

theorem mem_weeksIn {week : Int × Int} : week ∈ weeksIn samples step day slot ↔
    ∃ s ∈ samples, slot? step s = some (day, slot) ∧ week? s = some week := by
  simp only [weeksIn, List.mem_toFinset, List.mem_filterMap, List.mem_filter, decide_eq_true_eq, and_assoc]

theorem weeksIn_mono (h : samples ⊆ samples') : weeksIn samples step day slot ⊆ weeksIn samples' step day slot := by
  intro week hweek
  obtain ⟨s, hs, hfalls⟩ := mem_weeksIn.mp hweek
  exact mem_weeksIn.mpr ⟨s, h hs, hfalls⟩

variable [Scalar α] {threshold : α}

theorem observed_ofSamples (hstep : 0 < step) (hslot : slot < slotsPerDay step) :
    ((ofSamples samples step threshold).cell day slot).observed = (weeksIn samples step day slot).card := by
  rw [cell_ofSamples hstep hslot]
  refine length_eraseDups_eq_card fun week => ?_
  rw [List.mem_map, mem_weeksIn]
  constructor
  · rintro ⟨m, hm, rfl⟩
    obtain ⟨s, hs, hfalls, hweek, -⟩ := (mem_marksAt_slot hstep hslot).mp hm
    exact ⟨s, hs, hfalls, hweek⟩
  · rintro ⟨s, hs, hfalls, hweek⟩
    exact ⟨(week, _), (mem_marksAt_slot hstep hslot).mpr ⟨s, hs, hfalls, hweek, rfl⟩, rfl⟩

theorem active_ofSamples (hstep : 0 < step) (hslot : slot < slotsPerDay step) :
    ((ofSamples samples step threshold).cell day slot).active =
      (weeksIn (samples.filter (threshold < ·.cpu)) step day slot).card := by
  rw [cell_ofSamples hstep hslot]
  refine length_eraseDups_eq_card fun week => ?_
  rw [List.mem_map, mem_weeksIn]
  constructor
  · rintro ⟨m, hm, rfl⟩
    obtain ⟨hmark, hactive⟩ := List.mem_filter.mp hm
    obtain ⟨s, hs, hfalls, hweek, hbusy⟩ := (mem_marksAt_slot hstep hslot).mp hmark
    exact ⟨s, List.mem_filter.mpr ⟨hs, hbusy ▸ hactive⟩, hfalls, hweek⟩
  · rintro ⟨s, hs, hfalls, hweek⟩
    obtain ⟨hs, hbusy⟩ := List.mem_filter.mp hs
    have hmark := (mem_marksAt_slot hstep hslot (m := (week, true))).mpr ⟨s, hs, hfalls, hweek, hbusy.symm⟩
    exact ⟨(week, true), List.mem_filter.mpr ⟨hmark, rfl⟩, rfl⟩

/-- A grid is made of the samples there are, whatever their order and number. -/
theorem ofSamples_congr (h : ∀ s, s ∈ samples ↔ s ∈ samples') :
    ofSamples samples step threshold = ofSamples samples' step threshold := by
  have hstep : 0 < max step 1 := by omega
  suffices hmax : ofSamples samples (max step 1) threshold = ofSamples samples' (max step 1) threshold by
    rwa [ofSamples_max, ofSamples_max] at hmax
  refine ext_cells rfl (Array.ext_getElem? fun i => ?_)
  by_cases hi : i < 7 * slotsPerDay (max step 1)
  · rw [getElem?_cells hstep hi, getElem?_cells hstep hi]
    congr 1
    apply Cell.ofWeeks_congr
    simp only [mem_marksAt, h, implies_true]
  · have hsize : ∀ ss : List (Sample α), (ofSamples ss (max step 1) threshold).cells.size ≤ i := by
      intro ss
      rw [size_cells, step_ofSamples hstep]
      omega
    rw [Array.getElem?_eq_none (hsize samples), Array.getElem?_eq_none (hsize samples')]

/-- A sample falls into the slot of its weekday that its minute lies in. -/
theorem position_of_instant (hstep : 0 < step) {s : Sample α} {t : Instant}
    (ht : Instant.ofSeconds? s.timestamp = some t) : ∃ slot < slotsPerDay step,
      (mark? step threshold s).map (·.position) = some (t.day.weekday.index * slotsPerDay step + slot) ∧
        slot * step ≤ t.time.minute ∧ t.time.minute < (slot + 1) * step := by
  refine ⟨t.time.minute / step, slot_lt hstep t.time, by simp [mark?, ht], Nat.div_mul_le_self _ _, ?_⟩
  rw [Nat.mul_comm]
  exact Nat.lt_mul_div_succ _ hstep

/-- The grid depends on the set of samples alone. A sample whose instant exists falls into a slot of its own
weekday, and a cell counts the calendar weeks of the samples, and of the busy samples, in its slot. -/
theorem ofSamples_counts_weeks (samples : List (Sample α)) (step : Nat) (threshold : α) :
    let g := ofSamples samples step threshold
    (∀ samples', (∀ s, s ∈ samples' ↔ s ∈ samples) → ofSamples samples' step threshold = g) ∧
    (∀ s t, Instant.ofSeconds? s.timestamp = some t → ∃ slot < g.slots,
      (mark? g.step threshold s).map (·.position) = some (t.day.weekday.index * g.slots + slot) ∧
        slot * g.step ≤ t.time.minute ∧ t.time.minute < (slot + 1) * g.step) ∧
    (∀ day, ∀ slot < g.slots,
      (g.cell day slot).observed = (weeksIn samples g.step day slot).card ∧
      (g.cell day slot).active = (weeksIn (samples.filter (threshold < ·.cpu)) g.step day slot).card ∧
      (g.cell day slot).active ≤ (g.cell day slot).observed) ∧
    ∀ a b : Day, a.isoWeek = b.isoWeek ↔ (a.number + 3) / 7 = (b.number + 3) / 7 := by
  have hstep : 0 < max step 1 := by omega
  refine ⟨fun samples' h => ofSamples_congr h, fun s t ht => ?_, fun day slot hslot => ?_, Day.isoWeek_eq_iff⟩
  · exact position_of_instant hstep ht
  · rw [← ofSamples_max, step_ofSamples hstep, observed_ofSamples hstep hslot, active_ofSamples hstep hslot]
    exact ⟨rfl, rfl, Finset.card_le_card (weeksIn_mono (List.filter_subset_self _))⟩

end Grid

end FleetSizing
