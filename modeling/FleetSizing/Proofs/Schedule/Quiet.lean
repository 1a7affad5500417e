import FleetSizing.Proofs.Report.Decision
import FleetSizing.Proofs.Scalar.WholeNumbers
import FleetSizing.Proofs.Schedule.Cells

/-! The schedule of a resource without any activity. Slots that no sample falls into count as active,
so its windows are the stretches of such slots. -/
namespace FleetSizing

namespace Grid

variable {α : Type} {samples : List (Sample α)} {step : Nat} {threshold : α} {day : Weekday}
  {slot : Nat} {r : Run}

/-- No sample falls into a slot. -/
def isMissed (step : Nat) (samples : List (Sample α)) (day : Weekday) (slot : Nat) : Bool :=
  samples.all fun s => slot? step s != some (day, slot)

/-- Which slots of a day no sample falls into. -/
def missed (step : Nat) (samples : List (Sample α)) (day : Weekday) : List Bool :=
  (List.range (slotsPerDay step)).map (isMissed step samples day)

/-- Stretches of slots that no sample falls into, joined across midnight. -/
def stretches (step : Nat) (samples : List (Sample α)) : List Run :=
  Run.joinMidnight (slotsPerDay step) fun day => Run.ofDay day (missed step samples day)

theorem getElem?_missed_eq_true (h : (missed step samples day)[slot]? = some true) :
    slot < slotsPerDay step ∧ isMissed step samples day slot := by
  obtain ⟨hlt, hvalue⟩ := List.getElem?_eq_some_iff.mp h
  simp only [missed, List.length_map, List.length_range] at hlt
  simp only [missed, List.getElem_map, List.getElem_range] at hvalue
  exact ⟨hlt, hvalue⟩

theorem stretches_sound (h : r ∈ stretches step samples) :
    r.Sound (slotsPerDay step) (missed step samples) :=
  Run.joinMidnight_sound (fun d => by simp [missed]) r h

variable [Scalar α]

theorem isMissed_iff (threshold : α) (hstep : 0 < step) (hslot : slot < slotsPerDay step) :
    isMissed step samples day slot ↔
      marksAt samples step threshold (day.index * slotsPerDay step + slot) = [] := by
  rw [marksAt_eq_nil hstep hslot]
  simp [isMissed]

/-- A slot that was never observed counts as active in full. -/
theorem activity_of_isMissed (hstep : 0 < step) (hslot : slot < slotsPerDay step)
    (h : isMissed step samples day slot) :
    (ofSamples samples step threshold).activity α day slot = ((1 : Nat) : α) := by
  have hobserved : ((ofSamples samples step threshold).cell day slot).observed = 0 := by
    rw [cell_ofSamples hstep hslot, Cell.observed_ofWeeks_eq_zero]
    exact (isMissed_iff threshold hstep hslot).mp h
  simp only [activity]
  rw [if_pos hobserved]

theorem activities_stretch (hstep : 0 < step) (h : r ∈ stretches step samples) :
    r.activities (ofSamples samples step threshold) =
      List.replicate (r.stop - r.start + r.tail) ((1 : Nat) : α) := by
  have hsound : r.Sound (ofSamples samples step threshold).slots (missed step samples) := by
    rw [slots, step_ofSamples hstep]
    exact stretches_sound h
  apply hsound.activities_eq_replicate
  intro d i hactive
  obtain ⟨hslot, hmissed⟩ := getElem?_missed_eq_true hactive
  exact activity_of_isMissed hstep hslot hmissed

section

variable (hquiet : ∀ s ∈ samples, ¬ threshold < s.cpu)

include hquiet

theorem active_quiet {i : Nat} : (Cell.ofWeeks (marksAt samples step threshold i)).active = 0 := by
  apply Cell.active_ofWeeks_eq_zero
  intro m hm
  obtain ⟨s, hs, t, -, -, rfl⟩ := mem_marksAt.mp hm
  simpa using hquiet s hs

theorem idleThreshold?_quiet (hstep : 0 < step) :
    (ofSamples samples step threshold).idleThreshold? α = none := by
  have hnone : (ofSamples samples step threshold).hasActivity = false := by
    rw [hasActivity, Array.any_eq_false]
    intro i hi
    have hsize := (ofSamples samples step threshold).size_cells
    rw [step_ofSamples hstep] at hsize
    have hcell : (ofSamples samples step threshold).cells[i]? =
        some (Cell.ofWeeks (marksAt samples step threshold i)) := getElem?_cells hstep (hsize ▸ hi)
    rw [Array.getElem?_eq_getElem hi, Option.some.injEq] at hcell
    rw [hcell, active_quiet hquiet]
    decide
  rw [idleThreshold?, hnone]
  rfl

/-- Without any activity, the slots that count as active are those that were never observed. -/
theorem activeSlots_quiet (hstep : 0 < step) : (ofSamples samples step threshold).activeSlots
    ((ofSamples samples step threshold).idleMask α) day = missed step samples day := by
  have hslots : (ofSamples samples step threshold).slots = slotsPerDay step := by
    rw [slots, step_ofSamples hstep]
  rw [activeSlots_eq, missed, hslots]
  apply List.map_congr_left
  intro slot hslot
  have hlt := List.mem_range.mp hslot
  rw [isIdle_eq (hslots ▸ hlt), idleThreshold?_quiet hquiet hstep, cell_ofSamples hstep hlt]
  have hmissed : isMissed step samples day slot ↔ _ := isMissed_iff threshold hstep hlt
  rw [← Cell.observed_ofWeeks_eq_zero] at hmissed
  rw [Bool.eq_iff_iff, hmissed]
  simp [cellIsIdle]

theorem runs_quiet (hstep : 0 < step) :
    (ofSamples samples step threshold).runs α = stretches step samples := by
  simp only [runs, slots, step_ofSamples hstep, activeSlots_quiet hquiet hstep]
  rfl

end

/-- All slots of a stretch are active in full, and so is its window. -/
theorem probability_stretch {samples : List (Sample Float)} {threshold : Float} (hstep : 0 < step)
    (h : r ∈ stretches step samples) :
    (r.window (ofSamples samples step threshold) : Window Float).probability = Float.ofNat 1 := by
  have hsound := stretches_sound h
  have hlt := hsound.start_lt
  have hstop := hsound.stop_le
  have htail := hsound.tail_lt
  have hslots := Run.slotsPerDay_le hstep
  rw [Run.window_probability, activities_stretch hstep h, List.length_replicate,
    show max (r.stop - r.start + r.tail) 1 = r.stop - r.start + r.tail by omega]
  have hmean := WholeNumbers.mean_ones (n := r.stop - r.start + r.tail) (by omega)
    (by simp only [minutesPerDay] at hslots; omega)
  exact (congrArg (Scalar.clamp (Float.ofNat 0) (Float.ofNat 1)) hmean).trans (by decide)

theorem dailyWindows_quiet {samples : List (Sample Float)} {threshold : Float} (hstep : 0 < step)
    (hquiet : ∀ s ∈ samples, ¬ threshold < s.cpu) (minMinutes : Nat) :
    (ofSamples samples step threshold).dailyWindows Float minMinutes =
      ((stretches step samples).filter fun r => minMinutes ≤ r.minutes step).map
        (Run.window (ofSamples samples step threshold)) := by
  have hcertain : ∀ r ∈ (ofSamples samples step threshold).runs Float,
      (r.window (ofSamples samples step threshold) : Window Float).probability = Float.ofNat 1 := by
    rw [runs_quiet hquiet hstep]
    exact fun r hr => probability_stretch hstep hr
  have hhalf : Scalar.ratio 1 2 ≤ Float.ofNat 1 := by decide
  rw [dailyWindows_of_certain hhalf hcertain, runs_quiet hquiet hstep, step_ofSamples hstep]

end Grid

namespace Grid

theorem stretches_eq_nil {α : Type} {samples : List (Sample α)} {step : Nat}
    (h : ∀ day, ∀ slot < slotsPerDay step, ∃ s ∈ samples, slot? step s = some (day, slot)) :
    stretches step samples = [] := by
  rw [List.eq_nil_iff_forall_not_mem]
  intro r hr
  have hsound := stretches_sound hr
  obtain ⟨hslot, hmissed⟩ := getElem?_missed_eq_true
    (hsound.active r.start (Nat.le_refl _) hsound.start_lt)
  obtain ⟨s, hs, hfalls⟩ := h r.day r.start hslot
  simp only [isMissed, List.all_eq_true, bne_iff_ne] at hmissed
  exact hmissed s hs hfalls

end Grid

namespace Engine

/-- A resource without any activity is shut down exactly if every stretch of slots that no sample falls
into is too short for a window; its windows are those of the stretches that are not. -/
theorem quiet_shutdown_iff {e : Engine Float} {samples : List (Sample Float)}
    (hquiet : ∀ s ∈ samples, ¬ e.settings.activityThreshold < s.cpu) (r : Resource)
    (current : Shape Float) :
    let step := max (e.settings.stepMinutes samples) 1
    let short := ∀ q ∈ Grid.stretches step samples, q.minutes step < e.settings.minWindowMinutes
    e.settings.dailyWindows samples =
        ((Grid.stretches step samples).filter fun q =>
          e.settings.minWindowMinutes ≤ q.minutes step).map
          (Run.window (Grid.ofSamples samples step e.settings.activityThreshold)) ∧
      ((e.settings.schedule samples).isIdle ↔ short) ∧
      ((e.decide r samples current).1.actions = [.shutdown] ↔ short) ∧
      ((∀ day, ∀ slot < slotsPerDay step, ∃ s ∈ samples, Grid.slot? step s = some (day, slot)) →
        short) := by
  intro step short
  have hstep : 0 < step := by omega
  have hdaily := Grid.dailyWindows_quiet hstep hquiet e.settings.minWindowMinutes
  rw [Grid.ofSamples_max] at hdaily
  have hidle : (e.settings.schedule samples).isIdle ↔ short := by
    rw [Settings.schedule, Schedule.isIdle_ofWindows, Window.mergeAdjacent_eq_nil,
      Settings.dailyWindows, hdaily, List.map_eq_nil_iff, List.filter_eq_nil_iff]
    simp [short]
  refine ⟨?_, hidle, decide_shutdown_iff.trans hidle, ?_⟩
  · rw [Grid.ofSamples_max]
    exact hdaily
  · intro hsampled q hq
    rw [Grid.stretches_eq_nil hsampled] at hq
    cases hq

end Engine

/-! A single idle reading, on a Monday at midnight. -/
namespace Quiet

def reading : Sample Float := ⟨"i-1", "m5.large", 1704067200, 0, 5, -1, -1, -1⟩

def engine : Engine Float where
  shapes := .ofList []
  prices := .ofList []
  rules := []
  settings := Settings.default
  customer := "acme"
  now := default

theorem quiet_reading : ∀ s ∈ [reading], ¬ engine.settings.activityThreshold < s.cpu := by
  decide

theorem stepMinutes_reading : engine.settings.stepMinutes [reading] = 5 := by
  simp [Settings.stepMinutes, Sampling.stepMinutes, Sampling.gaps, Stats.median?]
  rfl

theorem exists_long_stretch : ∃ q ∈ Grid.stretches 5 [reading], 30 ≤ q.minutes 5 := by
  have hany : (Grid.stretches 5 [reading]).any fun q => 30 ≤ q.minutes 5 := by decide +kernel
  simpa using hany

end Quiet

theorem quiet_resource_not_idle :
    (∀ s ∈ [Quiet.reading], ¬ Quiet.engine.settings.activityThreshold < s.cpu) ∧
      Quiet.engine.settings.fault?.isNone ∧
      ¬ (Quiet.engine.settings.schedule [Quiet.reading]).isIdle := by
  refine ⟨Quiet.quiet_reading, by decide, ?_⟩
  obtain ⟨q, hq, hlong⟩ := Quiet.exists_long_stretch
  rw [Settings.schedule, Schedule.isIdle_ofWindows, Window.mergeAdjacent_eq_nil,
    Settings.dailyWindows, Quiet.stepMinutes_reading,
    Grid.dailyWindows_quiet (by decide) Quiet.quiet_reading, List.map_eq_nil_iff,
    List.filter_eq_nil_iff]
  exact fun hshort => hshort q hq (decide_eq_true hlong)

theorem quiet_shutdown_iff_reading :
    (∀ s ∈ [Quiet.reading], ¬ Quiet.engine.settings.activityThreshold < s.cpu) ∧
      (Quiet.engine.decide default [Quiet.reading] default).1.actions ≠ [.shutdown] := by
  refine ⟨Quiet.quiet_reading, ?_⟩
  intro hshutdown
  have hshort := (Engine.quiet_shutdown_iff Quiet.quiet_reading default default).2.2.1.mp hshutdown
  rw [Quiet.stepMinutes_reading] at hshort
  obtain ⟨q, hq, hlong⟩ := Quiet.exists_long_stretch
  have hlt : q.minutes 5 < 30 := hshort q hq
  omega

end FleetSizing
