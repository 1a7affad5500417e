import FleetSizing.Proofs.Schedule.Partition

/-! A cell of the grid counts the weeks of the samples that fall into its slot. -/
namespace FleetSizing

section

variable {β : Type}

theorem getElem?_foldl_modify (values : List (Nat × β)) (acc : Array (List β)) (i : Nat) :
    (values.foldl (fun acc (i, x) => acc.modify i (x :: ·)) acc)[i]? =
      acc[i]?.map (((values.filter (·.1 == i)).map (·.2)).reverse ++ ·) := by
  induction values generalizing acc with
  | nil => simp
  | cons v vs ih =>
    rw [List.foldl_cons, ih, Array.getElem?_modify]
    by_cases h : v.1 = i
    · simp [h, Function.comp_def]
    · simp [h]

theorem getElem?_distribute (size : Nat) (values : List (Nat × β)) {i : Nat} (h : i < size) :
    (distribute size values)[i]? = some ((values.filter (·.1 == i)).map (·.2)).reverse := by
  rw [distribute, getElem?_foldl_modify]
  simp [h]

end

namespace Cell

theorem observed_ofWeeks_eq_zero {marks : List ((Int × Int) × Bool)} :
    (ofWeeks marks).observed = 0 ↔ marks = [] := by
  constructor
  · intro h
    have hnil : (marks.map (·.1)).eraseDups = [] := List.eq_nil_of_length_eq_zero h
    cases marks with
    | nil => rfl
    | cons m ms =>
      have hm : m.1 ∈ ((m :: ms).map (·.1)).eraseDups := by simp
      rw [hnil] at hm
      cases hm
  · rintro rfl
    rfl

theorem active_ofWeeks_eq_zero {marks : List ((Int × Int) × Bool)} (h : ∀ m ∈ marks, m.2 = false) :
    (ofWeeks marks).active = 0 := by
  have hnone : marks.filter (·.2) = [] := by
    rw [List.filter_eq_nil_iff]
    intro m hm
    simp [h m hm]
  simp [ofWeeks, hnone]

end Cell

namespace Grid

variable {α : Type} [Scalar α] {samples : List (Sample α)} {step : Nat} {threshold : α}

/-- The marks of one position, latest sample first. -/
def marksAt (samples : List (Sample α)) (step : Nat) (threshold : α) (position : Nat) :
    List ((Int × Int) × Bool) :=
  (((samples.filterMap (mark? step threshold)).filter (·.position == position)).map
    fun m => (m.week, m.active)).reverse

theorem getElem?_cells {i : Nat} (hstep : 0 < step) (h : i < 7 * slotsPerDay step) :
    (ofSamples samples step threshold).cells[i]? =
      some (Cell.ofWeeks (marksAt samples step threshold i)) := by
  have hmax : max step 1 = step := by omega
  simp only [ofSamples, hmax, Array.getElem?_map]
  rw [getElem?_distribute _ _ h]
  simp only [marksAt, List.filter_map, List.map_map, Option.map_some]
  rfl

theorem ofSamples_max : ofSamples samples (max step 1) threshold = ofSamples samples step threshold := by
  have hmax : max (max step 1) 1 = max step 1 := by omega
  simp only [ofSamples, hmax]

theorem step_ofSamples (hstep : 0 < step) : (ofSamples samples step threshold).step = step := by
  simp only [ofSamples]
  omega

/-- Where a sample falls among the slots of the week. -/
def slot? (step : Nat) (s : Sample α) : Option (Weekday × Nat) :=
  (Instant.ofSeconds? s.timestamp).map fun t => (t.day.weekday, t.time.minute / step)

theorem mem_marksAt {position : Nat} {m : (Int × Int) × Bool} :
    m ∈ marksAt samples step threshold position ↔ ∃ s ∈ samples, ∃ t,
      Instant.ofSeconds? s.timestamp = some t ∧
        t.day.weekday.index * slotsPerDay step + t.time.minute / step = position ∧
        m = (t.day.isoWeek, decide (threshold < s.cpu)) := by
  simp only [marksAt, List.mem_reverse, List.mem_map, List.mem_filter, List.mem_filterMap, mark?,
    Option.map_eq_some_iff, beq_iff_eq]
  constructor
  · rintro ⟨_, ⟨⟨s, hs, t, ht, rfl⟩, hposition⟩, rfl⟩
    exact ⟨s, hs, t, ht, hposition, rfl⟩
  · rintro ⟨s, hs, t, ht, hposition, rfl⟩
    exact ⟨_, ⟨⟨s, hs, t, ht, rfl⟩, hposition⟩, rfl⟩

theorem slot_lt (hstep : 0 < step) (t : TimeOfDay) : t.minute / step < slotsPerDay step := by
  have hminute := t.minute_lt
  have hfull := Run.minutesPerDay_le_slots hstep
  rw [Nat.div_lt_iff_lt_mul hstep]
  simp only [minutesPerDay] at hfull
  omega

/-- Positions tell weekdays and slots apart. -/
theorem position_inj {d d' : Weekday} {n i j : Nat} (hi : i < n) (hj : j < n)
    (h : d.index * n + i = d'.index * n + j) : d = d' ∧ i = j := by
  have hi' : (d.index * n + i) % n = i := by
    rw [Nat.mul_comm, Nat.mul_add_mod, Nat.mod_eq_of_lt hi]
  have hj' : (d'.index * n + j) % n = j := by
    rw [Nat.mul_comm, Nat.mul_add_mod, Nat.mod_eq_of_lt hj]
  have hij : i = j := by rw [← hi', h, hj']
  subst hij
  have hmul : d.index * n = d'.index * n := Nat.add_right_cancel h
  exact ⟨Weekday.index_inj (Nat.eq_of_mul_eq_mul_right (by omega) hmul), rfl⟩

/-- The week a sample counts for. -/
def week? (s : Sample α) : Option (Int × Int) :=
  (Instant.ofSeconds? s.timestamp).map (·.day.isoWeek)

variable {day : Weekday} {slot : Nat}

/-- The marks of a slot are those of the samples that fall into it. -/
theorem mem_marksAt_slot (hstep : 0 < step) (hslot : slot < slotsPerDay step)
    {m : (Int × Int) × Bool} :
    m ∈ marksAt samples step threshold (day.index * slotsPerDay step + slot) ↔
      ∃ s ∈ samples, slot? step s = some (day, slot) ∧ week? s = some m.1 ∧
        m.2 = decide (threshold < s.cpu) := by
  rw [mem_marksAt]
  constructor
  · rintro ⟨s, hs, t, ht, hposition, rfl⟩
    obtain ⟨rfl, rfl⟩ := position_inj (slot_lt hstep t.time) hslot hposition
    exact ⟨s, hs, by simp [slot?, ht], by simp [week?, ht], rfl⟩
  · rintro ⟨s, hs, hfalls, hweek, hactive⟩
    obtain ⟨t, ht, hpair⟩ := Option.map_eq_some_iff.mp hfalls
    cases hpair
    rw [week?, ht, Option.map_some, Option.some.injEq] at hweek
    exact ⟨s, hs, t, ht, rfl, Prod.ext hweek.symm hactive⟩

theorem exists_week (h : slot? step s = some (day, slot)) : ∃ week, week? s = some week := by
  obtain ⟨t, ht, -⟩ := Option.map_eq_some_iff.mp h
  exact ⟨t.day.isoWeek, by simp [week?, ht]⟩

/-- A slot was observed if some sample falls into it. -/
theorem marksAt_eq_nil (hstep : 0 < step) (hslot : slot < slotsPerDay step) :
    marksAt samples step threshold (day.index * slotsPerDay step + slot) = [] ↔
      ∀ s ∈ samples, slot? step s ≠ some (day, slot) := by
  rw [List.eq_nil_iff_forall_not_mem]
  constructor
  · intro hnone s hs hfalls
    obtain ⟨week, hweek⟩ := exists_week hfalls
    exact hnone (week, _) ((mem_marksAt_slot hstep hslot).mpr ⟨s, hs, hfalls, hweek, rfl⟩)
  · intro hnone m hm
    obtain ⟨s, hs, hfalls, -⟩ := (mem_marksAt_slot hstep hslot).mp hm
    exact hnone s hs hfalls

theorem cell_ofSamples (hstep : 0 < step) (hslot : slot < slotsPerDay step) :
    (ofSamples samples step threshold).cell day slot =
      Cell.ofWeeks (marksAt samples step threshold (day.index * slotsPerDay step + slot)) := by
  rw [cell, slots, step_ofSamples hstep, Array.getD_eq_getD_getElem?,
    getElem?_cells hstep (day.position_lt hslot), Option.getD_some]

end Grid

end FleetSizing
