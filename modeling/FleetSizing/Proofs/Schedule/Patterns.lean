import FleetSizing.Proofs.Distinct
import FleetSizing.Proofs.Scalar.Rational
import FleetSizing.Proofs.Schedule.Cells
import FleetSizing.Proofs.Schedule.Maximal

/-! The schedule of a resource that keeps to a weekly pattern in every week it was observed in. Its
daily windows are the runs of the pattern, whatever the pattern is. -/
namespace FleetSizing

namespace Cell

/-- A slot is active in all of its weeks if each of them has an active mark. -/
theorem active_ofWeeks_eq_observed {marks : List ((Int × Int) × Bool)}
    (h : ∀ m ∈ marks, ∃ m' ∈ marks, m'.1 = m.1 ∧ m'.2) :
    (ofWeeks marks).active = (ofWeeks marks).observed := by
  apply length_eraseDups_congr
  intro week
  simp only [List.mem_map, List.mem_filter]
  constructor
  · rintro ⟨m, ⟨hm, -⟩, rfl⟩
    exact ⟨m, hm, rfl⟩
  · rintro ⟨m, hm, rfl⟩
    obtain ⟨m', hm', hweek, hactive⟩ := h m hm
    exact ⟨m', ⟨hm', hactive⟩, hweek⟩

end Cell

namespace Grid

variable {g : Grid} {c : Cell} {t : Rat}

theorem idleThreshold?_nonneg (h : g.idleThreshold? Rat = some t) : 0 ≤ t := by
  have hratio := Scalar.ratio_nonneg 1 2
  have hweeks : (0 : Rat) ≤ (g.weeks : Rat) := Rat.natCast_nonneg
  unfold idleThreshold? at h
  split at h
  · cases h
    exact Rat.le_trans (Rat.mul_nonneg hratio hweeks) (Scalar.le_larger _ _)
  · cases h

theorem hasActivity_of_cell {day : Weekday} {slot : Nat} (hactive : 0 < (g.cell day slot).active) :
    g.hasActivity := by
  rw [hasActivity, Array.any_eq_true]
  unfold cell at hactive
  by_cases hlt : day.index * g.slots + slot < g.cells.size
  · rw [Array.getD_eq_getD_getElem?, Array.getElem?_eq_getElem hlt, Option.getD_some] at hactive
    exact ⟨_, hlt, decide_eq_true hactive⟩
  · simp [hlt] at hactive

/-- A slot without activity is below every threshold. -/
theorem cellIsIdle_of_quiet (hobserved : 0 < c.observed) (hactive : c.active = 0) :
    cellIsIdle Rat (g.idleThreshold? Rat) c := by
  unfold cellIsIdle
  split
  · exact decide_eq_true hobserved
  · rename_i t ht
    have hlow : ((0 : Nat) : Rat) ≤ t := idleThreshold?_nonneg ht
    have hshare : ((0 : Nat) : Rat) < Scalar.ratio 3 4 * (c.observed : Rat) :=
      Rat.mul_pos (by norm_num [Scalar.ratio_rat]) (Rat.natCast_pos.mpr hobserved)
    rw [hactive, decide_eq_true hlow, decide_eq_true hshare]
    rfl

/-- A slot that is active in all of its weeks stays above three quarters of them. -/
theorem not_cellIsIdle_of_full (hactivity : g.hasActivity) (hactive : c.active = c.observed) :
    ¬ cellIsIdle Rat (g.idleThreshold? Rat) c := by
  have hshare : ¬ (c.observed : Rat) < Scalar.ratio 3 4 * (c.observed : Rat) := by
    have hobserved : (0 : Rat) ≤ (c.observed : Rat) := Rat.natCast_nonneg
    have hratio : (Scalar.ratio 3 4 : Rat) = 3 / 4 := rfl
    rw [hratio]
    grind
  rw [idleThreshold?, if_pos hactivity]
  simp [cellIsIdle, hactive, hshare]

/-- Where active slots are active in full, so is the window of every run. -/
theorem probability_of_full {r : Run} (hr : r ∈ g.runs Rat)
    (hfull : ∀ day, ∀ slot < g.slots, ¬ g.isIdle Rat day slot →
      g.activity Rat day slot = ((1 : Nat) : Rat)) :
    (r.window g : Window Rat).probability = ((1 : Nat) : Rat) := by
  have hsound := runs_sound r hr
  have hlt := hsound.start_lt
  have hactivities : r.activities g = List.replicate (r.stop - r.start + r.tail) ((1 : Nat) : Rat) := by
    apply hsound.activities_eq_replicate
    intro d i hactive
    obtain ⟨hslot, hidle⟩ := getElem?_activeSlots.mp hactive
    exact hfull d i hslot hidle
  have hmean := Scalar.share_self (show 0 < r.stop - r.start + r.tail by omega)
  rw [Run.window_probability, hactivities, List.length_replicate, Scalar.sum_ones,
    show max (r.stop - r.start + r.tail) 1 = r.stop - r.start + r.tail by omega]
  exact (congrArg (Scalar.clamp ((0 : Nat) : Rat) ((1 : Nat) : Rat)) hmean).trans
    (by decide)

section

variable {α : Type} [Scalar α] {samples : List (Sample α)} {step : Nat} {threshold : α}
  {pattern : Weekday → Nat → Prop} {day : Weekday} {slot : Nat}

/-- Every slot of the week was observed. Those of the pattern were active in all of the weeks they were
observed in, the others in none. -/
structure Shows (step : Nat) (threshold : α) (samples : List (Sample α))
    (pattern : Weekday → Nat → Prop) : Prop where
  observed : ∀ day, ∀ slot < slotsPerDay step, ∃ s ∈ samples, slot? step s = some (day, slot)
  active : ∀ s ∈ samples, ∀ day slot, slot? step s = some (day, slot) → pattern day slot →
    ∃ s' ∈ samples, slot? step s' = some (day, slot) ∧ week? s' = week? s ∧ threshold < s'.cpu
  quiet : ∀ s ∈ samples, ∀ day slot, slot? step s = some (day, slot) → ¬ pattern day slot →
    ¬ threshold < s.cpu

section

variable (h : Shows step threshold samples pattern) (hstep : 0 < step) (hslot : slot < slotsPerDay step)

include h hstep hslot

variable (day) in
theorem Shows.observed_pos :
    0 < ((ofSamples samples step threshold).cell day slot).observed := by
  obtain ⟨s, hs, hfalls⟩ := h.observed day slot hslot
  rw [cell_ofSamples hstep hslot, Nat.pos_iff_ne_zero, Ne, Cell.observed_ofWeeks_eq_zero,
    marksAt_eq_nil hstep hslot]
  exact fun hnone => hnone s hs hfalls

theorem Shows.cell_of_mem (hpattern : pattern day slot) :
    ((ofSamples samples step threshold).cell day slot).active =
      ((ofSamples samples step threshold).cell day slot).observed := by
  rw [cell_ofSamples hstep hslot]
  apply Cell.active_ofWeeks_eq_observed
  intro m hm
  obtain ⟨s, hs, hfalls, hweek, -⟩ := (mem_marksAt_slot hstep hslot).mp hm
  obtain ⟨s', hs', hfalls', hweek', hactive⟩ := h.active s hs day slot hfalls hpattern
  exact ⟨(m.1, true), (mem_marksAt_slot hstep hslot).mpr
    ⟨s', hs', hfalls', hweek'.trans hweek, (decide_eq_true hactive).symm⟩, rfl, rfl⟩

theorem Shows.cell_of_not_mem (hpattern : ¬ pattern day slot) :
    ((ofSamples samples step threshold).cell day slot).active = 0 := by
  rw [cell_ofSamples hstep hslot]
  apply Cell.active_ofWeeks_eq_zero
  intro m hm
  obtain ⟨s, hs, hfalls, -, hactive⟩ := (mem_marksAt_slot hstep hslot).mp hm
  rw [hactive]
  exact decide_eq_false (h.quiet s hs day slot hfalls hpattern)

theorem Shows.isIdle_iff :
    (ofSamples samples step threshold).isIdle Rat day slot ↔ ¬ pattern day slot := by
  have hobserved := h.observed_pos day hstep hslot
  rw [isIdle_eq (by rwa [slots, step_ofSamples hstep])]
  constructor
  · intro hidle hpattern
    have hactive := h.cell_of_mem hstep hslot hpattern
    refine not_cellIsIdle_of_full (hasActivity_of_cell (hactive ▸ hobserved)) hactive hidle
  · exact fun hpattern => cellIsIdle_of_quiet hobserved (h.cell_of_not_mem hstep hslot hpattern)

end

section

variable (h : Shows step threshold samples pattern) (hstep : 0 < step)

include h hstep

theorem Shows.mem_runs_iff {r : Run} : r ∈ (ofSamples samples step threshold).runs Rat ↔
    r.IsRun (ofSamples samples step threshold).slots
      (fun day slot => slot < (ofSamples samples step threshold).slots ∧ pattern day slot) := by
  have hactive : (fun day slot => slot < (ofSamples samples step threshold).slots ∧
      ¬ (ofSamples samples step threshold).isIdle Rat day slot) =
      fun day slot => slot < (ofSamples samples step threshold).slots ∧ pattern day slot := by
    funext day slot
    rw [slots, step_ofSamples hstep]
    exact propext (and_congr_right fun hslot => by rw [h.isIdle_iff hstep hslot, Classical.not_not])
  rw [← hactive]
  exact Grid.mem_runs_iff

/-- A slot of the pattern is active in full. -/
theorem Shows.activity_eq (hslot : slot < slotsPerDay step) (hpattern : pattern day slot) :
    (ofSamples samples step threshold).activity Rat day slot = ((1 : Nat) : Rat) := by
  have hpos := h.observed_pos day hstep hslot
  simp only [activity, h.cell_of_mem hstep hslot hpattern]
  rw [if_neg (Nat.ne_of_gt hpos)]
  exact Scalar.share_self hpos

theorem Shows.probability_eq {r : Run} (hr : r ∈ (ofSamples samples step threshold).runs Rat) :
    (r.window (ofSamples samples step threshold) : Window Rat).probability = ((1 : Nat) : Rat) := by
  apply probability_of_full hr
  intro day slot hslot hidle
  rw [slots, step_ofSamples hstep] at hslot
  rw [h.isIdle_iff hstep hslot, Classical.not_not] at hidle
  exact h.activity_eq hstep hslot hidle

theorem Shows.dailyWindows_eq (minMinutes : Nat) :
    (ofSamples samples step threshold).dailyWindows Rat minMinutes =
      (((ofSamples samples step threshold).runs Rat).filter fun r => minMinutes ≤ r.minutes step).map
        (Run.window (ofSamples samples step threshold)) := by
  rw [dailyWindows_of_certain Scalar.half_le_one fun r hr => h.probability_eq hstep hr,
    step_ofSamples hstep]

end

/-- The daily windows of a weekly pattern are those of its runs that last long enough, all certain. -/
theorem dailyWindows_of_pattern (h : Shows (max step 1) threshold samples pattern) :
    let g := ofSamples samples step threshold
    (∀ day, ∀ slot < g.slots, g.isIdle Rat day slot ↔ ¬ pattern day slot) ∧
      ∀ minMinutes, ∃ rs : List Run, rs.Nodup ∧
        (∀ r, r ∈ rs ↔ r.IsRun g.slots (fun day slot => slot < g.slots ∧ pattern day slot) ∧
          minMinutes ≤ (r.window g : Window Rat).duration) ∧
        g.dailyWindows Rat minMinutes = rs.map (Run.window g) ∧
        ∀ w ∈ g.dailyWindows Rat minMinutes, w.probability = 1 := by
  have hstep : 0 < max step 1 := by omega
  rw [← ofSamples_max]
  intro g
  have hg : g.step = max step 1 := step_ofSamples hstep
  refine ⟨fun day slot hslot => h.isIdle_iff hstep (hg ▸ hslot), fun minMinutes => ?_⟩
  refine ⟨_, nodup_runs.filter _, ?_, h.dailyWindows_eq hstep minMinutes, ?_⟩
  · intro r
    rw [List.mem_filter, decide_eq_true_iff, h.mem_runs_iff hstep]
    refine and_congr_right fun hrun => ?_
    have hsound := runs_sound r ((h.mem_runs_iff hstep).mpr hrun)
    rw [hsound.window_times.2, hg]
  · intro w hw
    rw [h.dailyWindows_eq hstep] at hw
    obtain ⟨r, hr, rfl⟩ := List.mem_map.mp hw
    exact h.probability_eq hstep (List.mem_filter.mp hr).1

end

/-! A pattern observed in one week. -/

/-- One week in which the slots of a pattern were active. -/
def ofPattern (step : Nat) (hstep : 0 < step) (pattern : Weekday → Nat → Bool) : Grid where
  step := step
  cells := (Array.range (7 * slotsPerDay step)).map fun i =>
    ⟨1, if pattern (.ofIndex (i / slotsPerDay step)) (i % slotsPerDay step) then 1 else 0⟩
  step_pos := hstep
  size_cells := by rw [Array.size_map, Array.size_range]

section

variable {step slot : Nat} {hstep : 0 < step} {pattern : Weekday → Nat → Bool} {day : Weekday}

@[simp] theorem slots_ofPattern : (ofPattern step hstep pattern).slots = slotsPerDay step := rfl

theorem cell_ofPattern (hslot : slot < slotsPerDay step) :
    (ofPattern step hstep pattern).cell day slot = ⟨1, if pattern day slot then 1 else 0⟩ := by
  have hindex := day.index_lt
  have hlt : day.index * slotsPerDay step + slot < 7 * slotsPerDay step :=
    calc day.index * slotsPerDay step + slot < day.index * slotsPerDay step + slotsPerDay step := by omega
      _ = (day.index + 1) * slotsPerDay step := (Nat.succ_mul _ _).symm
      _ ≤ 7 * slotsPerDay step := Nat.mul_le_mul_right _ hindex
  have hdiv : (day.index * slotsPerDay step + slot) / slotsPerDay step = day.index := by
    rw [Nat.add_comm, Nat.add_mul_div_right _ _ (Nat.zero_lt_of_lt hslot), Nat.div_eq_of_lt hslot,
      Nat.zero_add]
  have hmod : (day.index * slotsPerDay step + slot) % slotsPerDay step = slot := by
    rw [Nat.add_comm, Nat.add_mul_mod_self_right, Nat.mod_eq_of_lt hslot]
  rw [cell, slots_ofPattern, Array.getD_eq_getD_getElem?]
  simp [ofPattern, hlt, hdiv, hmod]

theorem isIdle_ofPattern (hslot : slot < slotsPerDay step) :
    (ofPattern step hstep pattern).isIdle Rat day slot = !pattern day slot := by
  rw [isIdle_eq hslot, cell_ofPattern hslot]
  cases hin : pattern day slot with
  | true =>
    have hactive : 0 < ((ofPattern step hstep pattern).cell day slot).active := by
      rw [cell_ofPattern hslot, hin]
      decide
    exact Bool.eq_false_iff.mpr (not_cellIsIdle_of_full (hasActivity_of_cell hactive) rfl)
  | false => exact cellIsIdle_of_quiet Nat.one_pos rfl

theorem activity_ofPattern (hslot : slot < slotsPerDay step) (hin : pattern day slot) :
    (ofPattern step hstep pattern).activity Rat day slot = ((1 : Nat) : Rat) := by
  rw [activity, cell_ofPattern hslot, if_pos hin]
  exact Scalar.share_self Nat.one_pos

theorem runs_ofPattern : (ofPattern step hstep pattern).runs Rat =
    Run.joinMidnight (slotsPerDay step) fun day =>
      Run.ofDay day ((List.range (slotsPerDay step)).map (pattern day)) := by
  have hactive : ∀ day, (ofPattern step hstep pattern).activeSlots
      ((ofPattern step hstep pattern).idleMask Rat) day =
        (List.range (slotsPerDay step)).map (pattern day) := by
    intro day
    rw [activeSlots_eq, slots_ofPattern]
    apply List.map_congr_left
    intro slot hslot
    rw [isIdle_ofPattern (List.mem_range.mp hslot), Bool.not_not]
  simp only [runs, hactive, slots_ofPattern]

/-- The daily windows are those of the runs of the pattern that last long enough. -/
theorem dailyWindows_ofPattern (minMinutes : Nat) :
    (ofPattern step hstep pattern).dailyWindows Rat minMinutes =
      (((ofPattern step hstep pattern).runs Rat).filter fun r => minMinutes ≤ r.minutes step).map
        (Run.window (ofPattern step hstep pattern)) := by
  refine dailyWindows_of_certain Scalar.half_le_one (fun r hr => ?_) minMinutes
  apply probability_of_full hr
  intro day slot hslot hactive
  rw [slots_ofPattern] at hslot
  rw [isIdle_ofPattern hslot] at hactive
  exact activity_ofPattern hslot (by simpa using hactive)

end

end Grid

/-! A night from Monday to Tuesday with a quiet reading in it, the Monday part observed in two weeks. -/
namespace Night

def reading (hours : Nat) (cpu : Rat) : Sample Rat :=
  ⟨"i-1", "m5.large", 1704067200 + 3600 * hours, cpu, 5, -1, -1, -1⟩

def samples : List (Sample Rat) :=
  ((List.range 21).map fun k => reading (8 * k) (if k = 2 ∨ k = 3 then 80 else 2)) ++
    [reading 17 1, reading 184 60]

def pattern (day : Weekday) (slot : Nat) : Prop := (day = .mon ∧ slot = 2) ∨ (day = .tue ∧ slot = 0)

instance (day : Weekday) (slot : Nat) : Decidable (pattern day slot) :=
  inferInstanceAs (Decidable (_ ∨ _))

theorem shows_pattern : Grid.Shows 480 15 samples pattern := by
  have hobserved : ∀ day ∈ Weekday.all, ∀ slot < 3,
      ∃ s ∈ samples, Grid.slot? 480 s = some (day, slot) := by decide
  have hactive : ∀ s ∈ samples, ∀ p ∈ Grid.slot? 480 s, pattern p.1 p.2 →
      ∃ s' ∈ samples, Grid.slot? 480 s' = some p ∧ Grid.week? s' = Grid.week? s ∧ 15 < s'.cpu := by
    decide
  have hquiet : ∀ s ∈ samples, ∀ p ∈ Grid.slot? 480 s, ¬ pattern p.1 p.2 → ¬ 15 < s.cpu := by
    decide
  refine ⟨fun day => hobserved day ?_, ?_, ?_⟩
  · cases day <;> decide
  · exact fun s hs day slot hfalls => hactive s hs (day, slot) hfalls
  · exact fun s hs day slot hfalls => hquiet s hs (day, slot) hfalls

theorem isRun_night :
    Run.IsRun 3 (fun day slot => slot < 3 ∧ pattern day slot) ⟨.mon, 2, 3, 1⟩ := by
  have hlone : ∀ (day : Weekday) (i : Nat), i < 3 ∧ pattern day i → (i = 0 ∨ ¬ pattern day (i - 1)) →
      ¬ (i + 1 < 3 ∧ pattern day (i + 1)) →
      Run.Maximal (fun slot => slot < 3 ∧ pattern day slot) i (i + 1) := by
    intro day i hin hbefore hafter
    refine ⟨Nat.lt_succ_self i, ?_, hbefore.imp_right fun hno h => hno h.2, hafter⟩
    intro j hj hj'
    rwa [show j = i by omega]
  have hmonday := hlone .mon 2 (by decide) (by decide) (by decide)
  have htuesday := hlone .tue 0 (by decide) (by decide) (by decide)
  exact ⟨hmonday, nofun, Or.inl ⟨rfl, 2, by decide, hmonday, htuesday⟩⟩

end Night

namespace Grid

theorem dailyWindows_of_pattern_night : Shows (max 480 1) 15 Night.samples Night.pattern ∧
    ((ofSamples Night.samples 480 15).isIdle Rat .wed 0) ∧
    ∃ w ∈ (ofSamples Night.samples 480 15).dailyWindows Rat 960,
      w.weekdays = [.mon] ∧ w.start.minute = 960 ∧ w.stop.minute = 480 ∧ w.probability = 1 := by
  have hshows : Shows (max 480 1) 15 Night.samples Night.pattern := Night.shows_pattern
  obtain ⟨hidle, hwindows⟩ := dailyWindows_of_pattern hshows
  obtain ⟨rs, -, hruns, hdaily, hcertain⟩ := hwindows 960
  have hrun : (⟨.mon, 2, 3, 1⟩ : Run) ∈ rs := (hruns _).mpr ⟨Night.isRun_night, by decide⟩
  have hwindow := hdaily ▸ List.mem_map_of_mem hrun
  exact ⟨hshows, (hidle .wed 0 (by decide)).mpr (by decide), _, hwindow,
    by decide, by decide, by decide, hcertain _ hwindow⟩

end Grid

end FleetSizing
