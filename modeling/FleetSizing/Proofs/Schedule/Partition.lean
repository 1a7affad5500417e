import FleetSizing.Proofs.Schedule.Coverage
import FleetSizing.Proofs.Schedule.Runs

/-! The runs of a week share out its active slots, and their windows share out the minutes. -/
namespace FleetSizing

namespace Run

variable {day : Weekday} {flags : List Bool} {slots slot : Nat} {r : Run}

/-- A slot of its own day lies in a run. -/
def spans (r : Run) (slot : Nat) : Bool := r.start ≤ slot && slot < r.stop

/-- A slot of the week lies in a run, or in its tail on the next day. -/
def covers (r : Run) (day : Weekday) (slot : Nat) : Bool :=
  (r.day == day && r.spans slot) || (r.day.next == day && slot < r.tail)

/-- What the scan still has to yield: the active slots from the start of the run in progress on. -/
theorem countP_scan {rest : List Bool} {opened : Option Nat} (hrest : flags.drop slot = rest)
    (hslot : slot ≤ flags.length) (hopen : Open flags slot opened) (i : Nat) :
    (scan day slot opened rest).countP (·.spans i) =
      if flags[i]? = some true ∧ opened.getD slot ≤ i then 1 else 0 := by
  induction rest generalizing slot opened with
  | nil =>
    have hlen : flags.length ≤ slot := List.drop_eq_nil_iff.mp hrest
    have hbound : flags[i]? = some true → i < flags.length :=
      fun h => (List.getElem?_eq_some_iff.mp h).1
    cases opened with
    | none =>
      rw [scan, List.countP_nil, Option.getD_none, if_neg]
      rintro ⟨hflag, hle⟩
      have hlt := hbound hflag
      omega
    | some start =>
      obtain ⟨-, hactive⟩ := hopen start rfl
      rw [scan, List.countP_singleton, Option.getD_some]
      by_cases hin : start ≤ i ∧ i < slot
      · rw [if_pos (by simpa [spans] using hin), if_pos ⟨hactive i hin.1 hin.2, hin.1⟩]
      · rw [if_neg (by simpa [spans] using hin), if_neg]
        rintro ⟨hflag, hle⟩
        have hlt := hbound hflag
        omega
  | cons flag rest ih =>
    obtain ⟨hlt, hflag, hnext⟩ := of_drop_eq_cons hrest
    cases opened with
    | none =>
      rw [scan]
      cases flag with
      | true => exact ih hnext hlt (open_here hflag)
      | false =>
        simp only [Bool.false_eq_true, if_false]
        rw [ih hnext hlt open_none]
        have hiff : flags[i]? = some true ∧ slot + 1 ≤ i ↔ flags[i]? = some true ∧ slot ≤ i := by
          refine and_congr_right fun htrue => ⟨by omega, fun hle => Nat.lt_of_le_of_ne hle ?_⟩
          rintro rfl
          simp [hflag] at htrue
        simp only [Option.getD_none, hiff]
    | some start =>
      obtain ⟨hstart, hactive⟩ := hopen start rfl
      rw [scan]
      cases flag with
      | true => exact ih hnext hlt (hopen.extend hflag)
      | false =>
        simp only [Bool.false_eq_true, if_false]
        rw [List.countP_cons, ih hnext hlt open_none]
        simp only [Option.getD_none, Option.getD_some, spans, Bool.and_eq_true, decide_eq_true_eq]
        -- The slot lies in the run that closes here, is the one that closes it, or comes later.
        rcases Nat.lt_trichotomy i slot with hbefore | rfl | hafter
        · have hiff : flags[i]? = some true ∧ start ≤ i ↔ start ≤ i ∧ i < slot :=
            ⟨fun h => ⟨h.2, hbefore⟩, fun h => ⟨hactive i h.1 h.2, h.1⟩⟩
          rw [if_neg (by omega)]
          simp only [hiff, Nat.zero_add]
        · simp [hflag]
        · have hiff : flags[i]? = some true ∧ slot + 1 ≤ i ↔ flags[i]? = some true ∧ start ≤ i :=
            and_congr_right fun _ => by omega
          simp only [hiff]
          rw [if_neg (show ¬ (start ≤ i ∧ i < slot) by omega), Nat.add_zero]

theorem countP_ofDay (i : Nat) :
    (ofDay day flags).countP (·.spans i) = if flags[i]? = some true then 1 else 0 := by
  have hdrop : flags.drop 0 = flags := rfl
  rw [ofDay, countP_scan hdrop (Nat.zero_le _) open_none]
  simp

section

variable {runs : Weekday → List Run}

/-- A slot of the next day that a day's last run goes on for. -/
def claims (slots : Nat) (runs : Weekday → List Run) (day : Weekday) (slot : Nat) : Bool :=
  (takenOver? slots runs day).any (slot < ·)

theorem countP_kept (slots i : Nat) : (kept slots runs day).countP (·.spans i) +
    (if claims slots runs day.prev i then 1 else 0) = (runs day).countP (·.spans i) := by
  unfold kept claims
  cases htaken : takenOver? slots runs day.prev with
  | none => simp
  | some tail =>
    obtain ⟨-, -, head, rest, -, hnext, -, -, hstart, hstop, -⟩ := takenOver?_eq_some_iff.mp htaken
    rw [Weekday.next_prev] at hnext
    simp [hnext, List.countP_cons, spans, hstart, hstop]

/-- Runs cover slots of their own day, tails of the next. -/
theorem countP_joined {d : Weekday} (h : ∀ q ∈ runs d, q.day = d ∧ q.tail = 0) (i : Nat) :
    (joined slots runs d).countP (·.covers day i) =
      (if d = day then (kept slots runs d).countP (·.spans i) else 0) +
        if d.next = day then (if claims slots runs d i then 1 else 0) else 0 := by
  have hcovers : ∀ q ∈ kept slots runs d, q.covers day i = (d == day && q.spans i) := by
    intro q hq
    obtain ⟨hday, htail⟩ := h q (kept_sublist.subset hq)
    simp [covers, hday, htail]
  have hown : ∀ qs : List Run, (∀ q ∈ qs, q ∈ kept slots runs d) →
      qs.countP (·.covers day i) = if d = day then qs.countP (·.spans i) else 0 := by
    intro qs hqs
    rw [List.countP_congr fun q hq => by rw [hcovers q (hqs q hq)]]
    by_cases hd : d = day <;> simp [hd]
  cases htaken : takenOver? slots runs d with
  | none =>
    rw [joined_eq_kept htaken, hown _ fun _ hq => hq]
    simp [claims, htaken]
  | some tail =>
    obtain ⟨init, last, hkept, -, -, hjoined⟩ := joined_eq_append htaken
    obtain ⟨hday, -⟩ := h last (kept_sublist.subset (hkept ▸ List.mem_append_right _ (by simp)))
    have hinit := hown init fun q hq => hkept ▸ List.mem_append_left _ hq
    rw [hjoined, hkept, List.countP_append, List.countP_append, hinit]
    by_cases hd : d = day
    · subst hd
      simp [covers, spans, hday, d.next_ne]
    · simp [covers, hday, hd, claims, htaken, ite_and]

theorem countP_joinMidnight (h : ∀ d, ∀ q ∈ runs d, q.day = d ∧ q.tail = 0) (i : Nat) :
    (joinMidnight slots runs).countP (·.covers day i) = (runs day).countP (·.spans i) := by
  rw [← countP_kept slots, joinMidnight, List.countP_flatMap]
  simp only [Function.comp_def, countP_joined (h _)]
  exact Weekday.sum_all day _ _

end

/-- Every active slot of the week lies in exactly one run, and no other slot in any. -/
theorem countP_covers_joinMidnight (slots : Nat) (week : Weekday → List Bool) (i : Nat) :
    (joinMidnight slots fun d => ofDay d (week d)).countP (·.covers day i) =
      if (week day)[i]? = some true then 1 else 0 := by
  rw [countP_joinMidnight, countP_ofDay]
  intro d q hq
  have hwithin := within_of_mem_ofDay hq
  exact ⟨hwithin.day_eq, hwithin.tail_eq⟩

/-- No slot of the week lies in two runs. -/
theorem disjoint_joinMidnight (slots : Nat) (week : Weekday → List Bool) :
    (joinMidnight slots fun d => ofDay d (week d)).Pairwise fun a b =>
      ∀ day slot, ¬ (a.covers day slot ∧ b.covers day slot) := by
  rw [List.pairwise_iff_forall_sublist]
  rintro a b hab day slot ⟨ha, hb⟩
  have hle := hab.countP_le (p := (·.covers day slot))
  rw [countP_covers_joinMidnight] at hle
  simp only [List.countP_cons, List.countP_nil, ha, hb, if_true] at hle
  split at hle <;> omega

theorem covers_div_iff {step minute : Nat} (hstep : 0 < step) : r.covers day (minute / step) ↔
    (r.day = day ∧ r.start * step ≤ minute ∧ minute < r.stop * step) ∨
      (r.day.next = day ∧ minute < r.tail * step) := by
  simp [covers, spans, Nat.le_div_iff_mul_le hstep, Nat.div_lt_iff_lt_mul hstep]

/-- The window of a run is open in the minutes of its slots, but for the last minute of a whole day. -/
theorem Sound.contains_window {α : Type} [Scalar α] {g : Grid} {week : Weekday → List Bool}
    (h : Sound g.slots week r) {minute : Nat} (hm : minute < minutesPerDay) :
    (r.window g : Window α).contains day minute ↔ r.covers day (minute / g.step) ∧
      ¬ (r.start = 0 ∧ r.stop = g.slots ∧ minute + 1 = minutesPerDay) := by
  have hover : minutesPerDay ≤ g.slots * g.step := minutesPerDay_le_slots g.step_pos
  rw [Window.contains_iff_or hm, covers_div_iff g.step_pos, window_weekdays,
    (h.window_times (α := α)).2, List.mem_singleton, List.mem_singleton, eq_comm,
    eq_comm (a := day.prev), Weekday.eq_prev_iff]
  by_cases hday : r.start = 0 ∧ r.stop = g.slots
  · have hopen : (r.window g : Window α).start.minute = 0 := by
      unfold window
      simp only [if_pos hday]
      rfl
    have htail : r.tail = 0 := by
      have hlt := h.tail_lt
      omega
    have hminutes : r.minutes g.step = minutesPerDay - 1 := if_pos hday
    have hmain : 0 ≤ minute ∧ minute - 0 < minutesPerDay - 1 ↔
        (0 ≤ minute ∧ minute < g.slots * g.step) ∧ ¬ minute + 1 = minutesPerDay := by omega
    rw [hopen, hminutes, hday.1, hday.2, htail, Nat.zero_mul, hmain]
    simp [and_assoc]
  · have hstart : r.start * g.step < minutesPerDay :=
      slot_mul_lt (Nat.lt_of_lt_of_le h.start_lt h.stop_le)
    have hopen : (r.window g : Window α).start.minute = r.start * g.step := by
      rw [(window_minutes hday).1]
      exact Nat.mod_eq_of_lt hstart
    have hminutes : r.minutes g.step =
      min (r.stop * g.step) minutesPerDay - r.start * g.step + r.tail * g.step := if_neg hday
    have hlt : r.start * g.step < r.stop * g.step := Nat.mul_lt_mul_of_pos_right h.start_lt g.step_pos
    have hwhole : ¬ (r.start = 0 ∧ r.stop = g.slots ∧ minute + 1 = minutesPerDay) :=
      fun hall => hday ⟨hall.1, hall.2.1⟩
    rw [hopen, hminutes, and_iff_left hwhole]
    rcases Nat.eq_zero_or_pos r.tail with hzero | hpos
    · have htail : r.tail * g.step = 0 := by rw [hzero, Nat.zero_mul]
      refine or_congr (and_congr_right fun _ => ?_) (and_congr_right fun _ => ?_) <;> omega
    · obtain ⟨hstop, hbefore⟩ := h.tail_lt hpos
      have htail : r.tail * g.step < r.start * g.step :=
        Nat.mul_lt_mul_of_pos_right hbefore g.step_pos
      rw [hstop] at hlt ⊢
      refine or_congr (and_congr_right fun _ => ?_) (and_congr_right fun _ => ?_) <;> omega

/-- A run through slots that are active in full is. -/
theorem Sound.activities_eq_replicate {α : Type} [Scalar α] {g : Grid} {week : Weekday → List Bool}
    (h : Sound g.slots week r)
    (hfull : ∀ d i, (week d)[i]? = some true → g.activity α d i = ((1 : Nat) : α)) :
    r.activities g = List.replicate (r.stop - r.start + r.tail) ((1 : Nat) : α) := by
  rw [List.eq_replicate_iff]
  constructor
  · simp [activities]
  · intro x hx
    simp only [activities, List.mem_append, List.mem_map, List.mem_range'_1, List.mem_range] at hx
    rcases hx with ⟨i, hi, rfl⟩ | ⟨i, hi, rfl⟩
    · exact hfull _ _ (h.active i hi.1 (by omega))
    · exact hfull _ _ (h.tail_active i hi)

end Run

namespace Grid

variable (α : Type) [Scalar α] (g : Grid)

/-- Whether the mask marks a slot of the week. -/
def isIdle (day : Weekday) (slot : Nat) : Bool :=
  (g.idleMask α).getD (day.index * g.slots + slot) false

variable {α g} {day : Weekday} {slot : Nat}

theorem getElem?_cells_eq_cell (hslot : slot < g.slots) :
    g.cells[day.index * g.slots + slot]? = some (g.cell day slot) := by
  have hlt : day.index * g.slots + slot < g.cells.size := by
    rw [g.size_cells]
    exact day.position_lt hslot
  rw [Array.getElem?_eq_getElem hlt, cell, Array.getElem_eq_getD]

theorem isIdle_eq (hslot : slot < g.slots) :
    g.isIdle α day slot = cellIsIdle α (g.idleThreshold? α) (g.cell day slot) := by
  rw [isIdle, idleMask, Array.getD_eq_getD_getElem?, Array.getElem?_map,
    getElem?_cells_eq_cell hslot, Option.map_some, Option.getD_some]

theorem activeSlots_eq : g.activeSlots (g.idleMask α) day =
    (List.range g.slots).map fun slot => !g.isIdle α day slot := rfl

theorem getElem?_activeSlots : (g.activeSlots (g.idleMask α) day)[slot]? = some true ↔
    slot < g.slots ∧ ¬ g.isIdle α day slot := by
  by_cases hslot : slot < g.slots <;> simp [activeSlots, isIdle, hslot]

theorem runs_sound : ∀ r ∈ g.runs α, r.Sound g.slots (g.activeSlots (g.idleMask α)) :=
  Run.joinMidnight_sound fun d => by simp [activeSlots]

theorem countP_runs (day : Weekday) (slot : Nat) : (g.runs α).countP (·.covers day slot) =
    if slot < g.slots ∧ ¬ g.isIdle α day slot then 1 else 0 := by
  simp only [← getElem?_activeSlots]
  exact Run.countP_covers_joinMidnight _ _ _

/-- Windows of runs that share no slot share no minute. -/
theorem windows_apart : ((g.runs α).map (Run.window g : Run → Window α)).Pairwise Window.Apart := by
  rw [List.pairwise_map]
  refine (Run.disjoint_joinMidnight _ _).imp_of_mem fun ha hb hnone => ?_
  rintro day minute hm ⟨hina, hinb⟩
  exact hnone day (minute / g.step) ⟨(((runs_sound _ ha).contains_window hm).mp hina).1,
    (((runs_sound _ hb).contains_window hm).mp hinb).1⟩

/-- Where every run is certain, its length alone decides. -/
theorem dailyWindows_of_certain (hhalf : Scalar.ratio 1 2 ≤ ((1 : Nat) : α))
    (hcertain : ∀ r ∈ g.runs α, (r.window g : Window α).probability = ((1 : Nat) : α))
    (minMinutes : Nat) : g.dailyWindows α minMinutes =
      ((g.runs α).filter fun r => minMinutes ≤ r.minutes g.step).map (Run.window g) := by
  rw [dailyWindows, List.filter_map]
  congr 1
  apply List.filter_congr
  intro r hr
  obtain ⟨hne, hduration⟩ := (runs_sound r hr).window_times (α := α)
  simp [keepsWindow, hcertain r hr, hne, hduration, hhalf, Window.isAlwaysRun, Run.window_weekdays]

variable (α g) in
/-- The runs of a grid share out its active slots, the windows of the runs are open in the minutes of
their slots, and so daily windows never overlap. -/
theorem runs_partition_week :
    (∀ day slot, (g.runs α).countP (·.covers day slot) =
      if slot < g.slots ∧ ¬ g.isIdle α day slot then 1 else 0) ∧
    (∀ r ∈ g.runs α, ∀ day, ∀ minute < minutesPerDay,
      (r.window g : Window α).contains day minute ↔ r.covers day (minute / g.step) ∧
        ¬ (r.start = 0 ∧ r.stop = g.slots ∧ minute + 1 = minutesPerDay)) ∧
    ∀ minMinutes, (g.dailyWindows α minMinutes).Pairwise Window.Apart ∧
      ∀ w ∈ g.dailyWindows α minMinutes, w.start ≠ w.stop := by
  refine ⟨countP_runs, fun r hr day minute hm => (runs_sound r hr).contains_window hm, ?_⟩
  intro minMinutes
  refine ⟨windows_apart.filter _, ?_⟩
  intro w hw
  obtain ⟨r, hr, rfl⟩ := List.mem_map.mp (List.mem_filter.mp hw).1
  exact (runs_sound r hr).window_times.1

/-- Three slots a day; the last one of Monday and the first one of Tuesday were never observed. -/
def nightShift : Grid where
  step := 480
  cells := (Array.range 21).map fun i => ⟨if i = 2 ∨ i = 3 then 0 else 1, 0⟩
  step_pos := by decide
  size_cells := by
    rw [Array.size_map, Array.size_range]
    rfl

theorem runs_nightShift : nightShift.runs Rat = [⟨.mon, 2, 3, 1⟩] := by
  decide +kernel

theorem runs_partition_week_nightShift :
    (⟨.mon, 2, 3, 1⟩ : Run) ∈ nightShift.runs Rat ∧ 479 < minutesPerDay ∧
      ((⟨.mon, 2, 3, 1⟩ : Run).window nightShift : Window Rat).contains .tue 479 := by
  have hrun : (⟨.mon, 2, 3, 1⟩ : Run) ∈ nightShift.runs Rat := by simp [runs_nightShift]
  have hiff := (runs_partition_week Rat nightShift).2.1 _ hrun .tue 479 (by decide)
  exact ⟨hrun, by decide, hiff.mpr (by decide)⟩

end Grid

end FleetSizing
