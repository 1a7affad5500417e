import FleetSizing.Proofs.Schedule.Families
import FleetSizing.Proofs.Schedule.Patterns
import FleetSizing.Schedule.Synthesis

/-! The schedule of a resource that is active whenever it is observed. Slots that no sample falls into
count as active too, so it runs around the clock whatever is missing. -/
namespace FleetSizing

namespace Grid

variable {g : Grid} {day : Weekday} {slot : Nat}

/-- Every slot was active in all of the weeks it was observed in. -/
def Busy (g : Grid) : Prop :=
  ∀ day, ∀ slot < g.slots, (g.cell day slot).active = (g.cell day slot).observed

theorem slots_pos (g : Grid) : 0 < g.slots := by
  have hfull := Run.minutesPerDay_le_slots g.step_pos
  rcases Nat.eq_zero_or_pos g.slots with hzero | hpos
  · rw [slots] at hzero
    rw [hzero, Nat.zero_mul] at hfull
    exact absurd hfull (by decide)
  · exact hpos

theorem Busy.not_isIdle (h : g.Busy) (hslot : slot < g.slots) : ¬ g.isIdle Rat day slot := by
  rw [isIdle_eq hslot]
  by_cases hactivity : g.hasActivity
  · exact not_cellIsIdle_of_full hactivity (h day slot hslot)
  · -- Nothing was active, so nothing was observed.
    have hactive : (g.cell day slot).active = 0 := by
      rcases Nat.eq_zero_or_pos (g.cell day slot).active with hzero | hpos
      · exact hzero
      · exact (hactivity (hasActivity_of_cell hpos)).elim
    have hobserved : (g.cell day slot).observed = 0 := (h day slot hslot).symm.trans hactive
    rw [idleThreshold?, if_neg hactivity]
    simp [cellIsIdle, hobserved]

theorem Busy.activity_eq (h : g.Busy) (hslot : slot < g.slots) :
    g.activity Rat day slot = ((1 : Nat) : Rat) := by
  simp only [activity, h day slot hslot]
  split
  · rfl
  · rename_i hobserved
    exact Scalar.share_self (Nat.pos_of_ne_zero hobserved)

/-- A run of a busy week has a whole day. -/
theorem Busy.start_stop (h : g.Busy) {r : Run} (hr : r ∈ g.runs Rat) :
    r.start = 0 ∧ r.stop = g.slots := by
  have hsound := runs_sound r hr
  have hlt := hsound.start_lt
  have hle := hsound.stop_le
  obtain ⟨-, -, hbefore, hafter⟩ := (mem_runs_iff.mp hr).maximal
  constructor
  · rcases hbefore with hzero | hbefore
    · exact hzero
    · have hslot : r.start - 1 < g.slots := by omega
      exact (hbefore ⟨hslot, h.not_isIdle hslot⟩).elim
  · rcases Nat.lt_or_ge r.stop g.slots with hslot | hge
    · exact (hafter ⟨hslot, h.not_isIdle hslot⟩).elim
    · exact Nat.le_antisymm hle hge

theorem Busy.exists_run (h : g.Busy) (day : Weekday) : ∃ r ∈ g.runs Rat, r.day = day := by
  have hcount : 0 < (g.runs Rat).countP (·.covers day 0) := by
    rw [countP_runs, if_pos ⟨g.slots_pos, h.not_isIdle g.slots_pos⟩]
    exact Nat.one_pos
  obtain ⟨r, hr, hcovers⟩ := List.countP_pos_iff.mp hcount
  have hstart := (h.start_stop hr).1
  have htail := (runs_sound r hr).tail_lt
  simp only [Run.covers, Bool.or_eq_true, Bool.and_eq_true, beq_iff_eq, decide_eq_true_eq] at hcovers
  rcases hcovers with ⟨hday, -⟩ | ⟨-, hcarried⟩
  · exact ⟨r, hr, hday⟩
  · have hbefore := (htail hcarried).2
    omega

/-- The daily windows of a busy week cover whole days, and every day. -/
theorem Busy.dailyWindows (h : g.Busy) {minMinutes : Nat} (hmin : minMinutes < minutesPerDay) :
    (∀ w ∈ g.dailyWindows Rat minMinutes, w.isFullDay) ∧
      ∀ day, ∃ w ∈ g.dailyWindows Rat minMinutes, day ∈ w.weekdays := by
  have hcertain : ∀ r ∈ g.runs Rat, (r.window g : Window Rat).probability = ((1 : Nat) : Rat) :=
    fun r hr => probability_of_full hr fun _ _ hslot _ => h.activity_eq hslot
  rw [dailyWindows_of_certain Scalar.half_le_one hcertain]
  constructor
  · intro w hw
    obtain ⟨r, hr, rfl⟩ := List.mem_map.mp hw
    rw [Run.window, if_pos (h.start_stop (List.mem_filter.mp hr).1)]
    rfl
  · intro day
    obtain ⟨r, hr, rfl⟩ := h.exists_run day
    have hlong : minMinutes ≤ r.minutes g.step := by
      have hday : r.minutes g.step = minutesPerDay - 1 := if_pos (h.start_stop hr)
      omega
    refine ⟨r.window g, List.mem_map_of_mem (List.mem_filter.mpr ⟨hr, decide_eq_true hlong⟩), ?_⟩
    rw [Run.window_weekdays]
    exact List.mem_singleton.mpr rfl

theorem busy_ofSamples {samples : List (Sample Rat)} {step : Nat} {threshold : Rat}
    (h : ∀ s ∈ samples, threshold < s.cpu) : (ofSamples samples step threshold).Busy := by
  rw [← ofSamples_max]
  intro day slot hslot
  have hstep : 0 < max step 1 := by omega
  rw [slots, step_ofSamples hstep] at hslot
  rw [cell_ofSamples hstep hslot]
  apply Cell.active_ofWeeks_eq_observed
  intro m hm
  obtain ⟨s, hs, -, -, hactive⟩ := (mem_marksAt_slot hstep hslot).mp hm
  exact ⟨m, hm, rfl, hactive.trans (decide_eq_true (h s hs))⟩

end Grid

namespace Schedule

/-- Windows over whole days cover the days that they covered before they were merged. -/
theorem coversWeek_mergeAdjacent {α : Type} [Scalar α] {tolerance : Nat} {ws : List (Window α)}
    (hfull : ∀ w ∈ ws, w.isFullDay) (hdays : ∀ day, ∃ w ∈ ws, day ∈ w.weekdays) :
    coversWeek (Window.mergeAdjacent tolerance ws) := by
  rw [coversWeek, List.all_eq_true]
  intro day _
  obtain ⟨w, hw, hday⟩ := hdays day
  obtain ⟨f, hf, hm⟩ : ∃ f ∈ Window.families tolerance ws, w ∈ f.members :=
    Window.mem_families_iff.mpr hw
  have hleader : f.leader.isFullDay :=
    hfull f.leader (Window.mem_families_iff.mp ⟨f, hf, List.mem_cons_self⟩)
  rw [Window.mergeAdjacent, Window.groups_eq_map_families, List.any_eq_true]
  refine ⟨f.group.merged, List.mem_filter.mpr ⟨?_, hleader⟩, ?_⟩
  · exact List.mem_map_of_mem (List.mem_map_of_mem hf)
  · rw [List.contains_iff_mem]
    exact Window.mem_orderedDays.mpr (List.mem_flatMap.mpr ⟨w, hm, hday⟩)

theorem ofWindows_of_coversWeek {α : Type} {ws : List (Window α)} (h : coversWeek ws) :
    ofWindows ws = .alwaysRun := by
  have hne : ¬ ws.isEmpty := by
    rintro hempty
    simp [List.isEmpty_iff.mp hempty, coversWeek, Weekday.all] at h
  rw [ofWindows, if_neg hne, if_pos h]

end Schedule

theorem Settings.schedule_of_busy {settings : Settings Rat} {samples : List (Sample Rat)}
    (hmin : settings.minWindowMinutes < minutesPerDay)
    (h : ∀ s ∈ samples, settings.activityThreshold < s.cpu) :
    settings.schedule samples = .alwaysRun := by
  have hgrid : (Grid.ofSamples samples (settings.stepMinutes samples) settings.activityThreshold).Busy :=
    Grid.busy_ofSamples h
  obtain ⟨hfull, hdays⟩ := hgrid.dailyWindows hmin
  exact Schedule.ofWindows_of_coversWeek (Schedule.coversWeek_mergeAdjacent hfull hdays)

end FleetSizing
