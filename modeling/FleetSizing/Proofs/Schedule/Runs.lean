import FleetSizing.Proofs.Schedule.Week
import FleetSizing.Schedule.Run

/-! Runs consist of active slots, and so do the tails they take over from the next day. -/
namespace FleetSizing.Run

variable {day : Weekday} {flags : List Bool} {slots : Nat} {week : Weekday → List Bool} {r : Run}

/-- A stretch of active slots of one day, none of them of the next day. -/
structure Within (day : Weekday) (flags : List Bool) (r : Run) : Prop where
  day_eq : r.day = day
  start_lt : r.start < r.stop
  stop_le : r.stop ≤ flags.length
  tail_eq : r.tail = 0
  active : ∀ i, r.start ≤ i → i < r.stop → flags[i]? = some true

/-- A stretch of active slots of the week. One with a tail goes on through midnight, and stops before
it would meet itself a day later. -/
structure Sound (slots : Nat) (week : Weekday → List Bool) (r : Run) : Prop where
  start_lt : r.start < r.stop
  stop_le : r.stop ≤ slots
  tail_lt : 0 < r.tail → r.stop = slots ∧ r.tail < r.start
  active : ∀ i, r.start ≤ i → i < r.stop → (week r.day)[i]? = some true
  tail_active : ∀ i < r.tail, (week r.day.next)[i]? = some true

/-- What the scan knows of a run in progress. -/
def Open (flags : List Bool) (slot : Nat) (opened : Option Nat) : Prop :=
  ∀ s, opened = some s → s < slot ∧ ∀ i, s ≤ i → i < slot → flags[i]? = some true

theorem Open.closed {slot start : Nat} (h : Open flags slot (some start)) (hslot : slot ≤ flags.length) :
    Within day flags { day, start, stop := slot } := by
  obtain ⟨hlt, hactive⟩ := h start rfl
  exact ⟨rfl, hlt, hslot, rfl, hactive⟩

theorem Open.extend {slot start : Nat} (h : Open flags slot (some start))
    (hslot : flags[slot]? = some true) : Open flags (slot + 1) (some start) := by
  intro s hs
  cases hs
  obtain ⟨hlt, hactive⟩ := h start rfl
  refine ⟨by omega, ?_⟩
  intro i hi hi'
  rcases Nat.lt_or_eq_of_le (Nat.lt_succ_iff.mp hi') with hlt' | rfl
  · exact hactive i hi hlt'
  · exact hslot

theorem open_none {slot : Nat} : Open flags slot none := by
  intro s hs
  cases hs

theorem of_drop_eq_cons {slot : Nat} {flag : Bool} {rest : List Bool}
    (h : flags.drop slot = flag :: rest) :
    slot < flags.length ∧ flags[slot]? = some flag ∧ flags.drop (slot + 1) = rest := by
  have hflag : flags[slot]? = some flag := by
    rw [← List.head?_drop, h]
    rfl
  refine ⟨(List.getElem?_eq_some_iff.mp hflag).1, hflag, ?_⟩
  rw [← List.drop_drop, h]
  rfl

theorem open_here {slot : Nat} (h : flags[slot]? = some true) : Open flags (slot + 1) (some slot) := by
  intro s hs
  cases hs
  refine ⟨Nat.lt_succ_self _, ?_⟩
  intro i hi hi'
  rw [show i = slot by omega, h]

/-- The scan has read the flags up to `slot`, and `rest` is what remains of them. -/
theorem scan_within {rest : List Bool} {slot : Nat} {opened : Option Nat}
    (hrest : flags.drop slot = rest) (hslot : slot ≤ flags.length) (hopen : Open flags slot opened) :
    ∀ r ∈ scan day slot opened rest, Within day flags r := by
  induction rest generalizing slot opened with
  | nil =>
    cases opened with
    | none => simp [scan]
    | some start =>
      intro r hr
      rw [scan, List.mem_singleton] at hr
      exact hr ▸ hopen.closed hslot
  | cons flag rest ih =>
    obtain ⟨hlt, hflag, hnext⟩ := of_drop_eq_cons hrest
    cases opened with
    | none =>
      rw [scan]
      apply ih hnext hlt
      cases flag with
      | false => exact open_none
      | true => exact open_here hflag
    | some start =>
      rw [scan]
      cases flag with
      | true => exact ih hnext hlt (hopen.extend hflag)
      | false =>
        intro r hr
        rcases List.mem_cons.mp hr with rfl | hr
        · exact hopen.closed hslot
        · exact ih hnext hlt open_none r hr

theorem within_of_mem_ofDay (h : r ∈ ofDay day flags) : Within day flags r :=
  scan_within rfl (Nat.zero_le _) open_none r h

theorem Within.sound (h : Within day (week day) r) (hlen : (week day).length = slots) :
    Sound slots week r := by
  obtain ⟨rfl, hlt, hle, htail, hactive⟩ := h
  refine ⟨hlt, hlen ▸ hle, ?_, hactive, ?_⟩ <;> omega

section

variable {runs : Weekday → List Run} {rs : List Run} {tail : Nat}

theorem takenOver?_eq_some_iff : takenOver? slots runs day = some tail ↔ ∃ init last head rest,
    runs day = init ++ [last] ∧ runs day.next = head :: rest ∧ last.stop = slots ∧ last.start ≠ 0 ∧
      head.start = 0 ∧ head.stop = tail ∧ tail < last.start ∧ tail ≠ slots := by
  unfold takenOver?
  constructor
  · intro h
    split at h
    · rename_i last head hlast hhead
      obtain ⟨init, hruns⟩ := List.getLast?_eq_some_iff.mp hlast
      obtain ⟨rest, hnext⟩ := List.head?_eq_some_iff.mp hhead
      split at h
      · rename_i hjoin
        obtain ⟨hstop, hne, hstart, hlt, hwhole⟩ := hjoin
        cases h
        exact ⟨init, last, head, rest, hruns, hnext, hstop, hne, hstart, rfl, hlt, hwhole⟩
      · cases h
    · cases h
  · rintro ⟨init, last, head, rest, hruns, hnext, hstop, hne, hstart, rfl, hlt, hwhole⟩
    simp [hruns, hnext, hstop, hne, hstart, hlt, hwhole]

/-- The runs of a day, without the first one where the day before has taken it over. -/
def kept (slots : Nat) (runs : Weekday → List Run) (day : Weekday) : List Run :=
  if (takenOver? slots runs day.prev).isSome then (runs day).tail else runs day

theorem kept_sublist : (kept slots runs day).Sublist (runs day) := by
  unfold kept
  split
  · exact List.tail_sublist _
  · exact List.Sublist.refl _

theorem withTail_append_singleton : withTail tail (rs ++ [r]) = rs ++ [{ r with tail }] := by
  induction rs with
  | nil => rfl
  | cons q qs ih =>
    cases qs with
    | nil => rfl
    | cons q' qs => exact congrArg (q :: ·) ih

theorem joined_eq_kept (h : takenOver? slots runs day = none) :
    joined slots runs day = kept slots runs day := by
  unfold joined
  simp only [h]
  rfl

/-- A day's last run is not its first where it goes on through midnight. -/
theorem joined_eq_append (h : takenOver? slots runs day = some tail) : ∃ init last,
    kept slots runs day = init ++ [last] ∧ last.stop = slots ∧ tail < last.start ∧
      joined slots runs day = init ++ [{ last with tail }] := by
  obtain ⟨init, last, -, -, hruns, -, hstop, hne, -, -, hlt, -⟩ := takenOver?_eq_some_iff.mp h
  obtain ⟨init', hkept⟩ : ∃ init', kept slots runs day = init' ++ [last] := by
    unfold kept
    split
    · rename_i htaken
      obtain ⟨_, htail⟩ := Option.isSome_iff_exists.mp htaken
      obtain ⟨-, -, head, rest, -, hnext, -, -, hstart, -⟩ := takenOver?_eq_some_iff.mp htail
      rw [Weekday.next_prev, hruns] at hnext
      cases init with
      | nil =>
        obtain rfl : last = head := by simpa using (List.cons.inj hnext).1
        exact (hne hstart).elim
      | cons q init => exact ⟨init, by simp [hruns]⟩
    · exact ⟨init, hruns⟩
  refine ⟨init', last, hkept, hstop, hlt, ?_⟩
  unfold joined
  simp only [h]
  exact (congrArg (withTail tail) hkept).trans withTail_append_singleton

end

/-- The last run of a day goes on through midnight with the first run of the next day. -/
theorem Within.sound_withTail {head : Run} (h : Within day (week day) r)
    (hhead : Within day.next (week day.next) head) (hstart : head.start = 0) (hstop : r.stop = slots)
    (hlt : head.stop < r.start) : Sound slots week { r with tail := head.stop } := by
  obtain ⟨rfl, hne, -, -, hactive⟩ := h
  refine ⟨hne, Nat.le_of_eq hstop, fun _ => ⟨hstop, hlt⟩, hactive, ?_⟩
  intro i hi
  exact hhead.active i (by omega) hi

theorem joined_sound (hlen : ∀ d, (week d).length = slots)
    (h : r ∈ joined slots (fun d => ofDay d (week d)) day) : Sound slots week r := by
  have hwithin : ∀ q ∈ kept slots (fun d => ofDay d (week d)) day, Within day (week day) q :=
    fun q hq => within_of_mem_ofDay (kept_sublist.subset hq)
  cases htaken : takenOver? slots (fun d => ofDay d (week d)) day with
  | none =>
    rw [joined_eq_kept htaken] at h
    exact (hwithin r h).sound (hlen day)
  | some tail =>
    obtain ⟨-, -, head, rest, -, hnext, -, -, hstart, rfl, -, -⟩ := takenOver?_eq_some_iff.mp htaken
    obtain ⟨init, last, hkept, hstop, hlt, hjoined⟩ := joined_eq_append htaken
    rw [hjoined, List.mem_append, List.mem_singleton] at h
    rcases h with hinit | rfl
    · exact (hwithin r (by simp [hkept, hinit])).sound (hlen day)
    · have hhead : Within day.next (week day.next) head :=
        within_of_mem_ofDay (hnext ▸ List.mem_cons_self)
      exact (hwithin last (by simp [hkept])).sound_withTail hhead hstart hstop hlt

theorem joinMidnight_sound (hlen : ∀ d, (week d).length = slots) :
    ∀ r ∈ joinMidnight slots (fun d => ofDay d (week d)), Sound slots week r := by
  intro r h
  obtain ⟨d, -, hr⟩ := List.mem_flatMap.mp h
  exact joined_sound hlen hr

/-- Minutes from the opening of a run to its close. A window over a whole day stops a minute early. -/
def minutes (step : Nat) (r : Run) : Nat :=
  if r.start = 0 ∧ r.stop = slotsPerDay step then minutesPerDay - 1
  else min (r.stop * step) minutesPerDay - r.start * step + r.tail * step

section

variable {step : Nat}

theorem minutesPerDay_le_slots (hstep : 0 < step) : minutesPerDay ≤ slotsPerDay step * step := by
  have hdiv := Nat.div_add_mod (minutesPerDay + step - 1) step
  have hmod := Nat.mod_lt (minutesPerDay + step - 1) hstep
  rw [Nat.mul_comm] at hdiv
  simp only [slotsPerDay]
  omega

/-- Every slot starts within its day. -/
theorem slot_mul_lt {slot : Nat} (h : slot < slotsPerDay step) : slot * step < minutesPerDay := by
  have hle : (slot + 1) * step ≤ minutesPerDay + step - 1 := Nat.mul_le_of_le_div _ _ _ h
  rw [Nat.add_mul, Nat.one_mul] at hle
  simp only [minutesPerDay] at *
  omega

theorem slotsPerDay_le (hstep : 0 < step) : slotsPerDay step ≤ minutesPerDay := by
  rcases Nat.eq_zero_or_pos (slotsPerDay step) with hzero | hpos
  · omega
  · have hlast := slot_mul_lt (show slotsPerDay step - 1 < slotsPerDay step by omega)
    have hle := Nat.le_mul_of_pos_right (slotsPerDay step - 1) hstep
    omega

/-- Where the window of a run opens and closes, unless the run covers its whole day. -/
theorem window_minutes {α : Type} [Scalar α] {g : Grid} (h : ¬ (r.start = 0 ∧ r.stop = g.slots)) :
    (r.window g : Window α).start.minute = r.start * g.step % 1440 ∧
      (r.window g : Window α).stop.minute =
        (if 0 < r.tail then r.tail * g.step else min (r.stop * g.step) minutesPerDay) % 1440 := by
  unfold window
  simp only
  rw [if_neg h]
  exact ⟨rfl, rfl⟩

theorem window_weekdays {α : Type} [Scalar α] {g : Grid} :
    (r.window g : Window α).weekdays = [r.day] := by
  have hday : Window.orderedDays [r.day] = [r.day] := by
    cases r.day <;> rfl
  unfold window
  simp only
  split <;> exact hday

theorem window_probability {α : Type} [Scalar α] {g : Grid} :
    let shares : List α := r.activities g
    (r.window g : Window α).probability =
      Scalar.clamp ((0 : Nat) : α) ((1 : Nat) : α)
        (Scalar.sum shares / ((max shares.length 1 : Nat) : α)) := by
  unfold window
  simp only
  split <;> rfl

theorem Sound.window_times {α : Type} [Scalar α] {g : Grid} (h : Sound g.slots week r) :
    (r.window g : Window α).start ≠ (r.window g : Window α).stop ∧
      (r.window g : Window α).duration = r.minutes g.step := by
  by_cases hday : r.start = 0 ∧ r.stop = g.slots
  · have hminutes : r.minutes g.step = minutesPerDay - 1 := if_pos hday
    rw [hminutes]
    unfold window
    simp only
    rw [if_pos hday]
    exact ⟨show TimeOfDay.midnight ≠ .dayEnd by decide, rfl⟩
  · obtain ⟨hopen, hclose⟩ := window_minutes (α := α) hday
    have hminutes : r.minutes g.step =
      min (r.stop * g.step) minutesPerDay - r.start * g.step + r.tail * g.step := if_neg hday
    have hstart : r.start * g.step < minutesPerDay :=
      slot_mul_lt (Nat.lt_of_lt_of_le h.start_lt h.stop_le)
    have hlt : r.start * g.step < r.stop * g.step := Nat.mul_lt_mul_of_pos_right h.start_lt g.step_pos
    -- A run that starts at midnight stops before the day is over.
    have hlast : minutesPerDay ≤ r.stop * g.step → 0 < r.start * g.step := by
      intro hover
      refine Nat.mul_pos (Nat.pos_of_ne_zero fun hzero => hday ⟨hzero, ?_⟩) g.step_pos
      rcases Nat.lt_or_eq_of_le h.stop_le with hbefore | hstop
      · exact (Nat.not_lt.mpr hover (slot_mul_lt hbefore)).elim
      · exact hstop
    have hopen' : (r.window g : Window α).start.minute = r.start * g.step := by
      rw [hopen]
      exact Nat.mod_eq_of_lt hstart
    rw [hminutes]
    rcases Nat.eq_zero_or_pos r.tail with hzero | hpos
    · rw [if_neg (by omega)] at hclose
      have htail : r.tail * g.step = 0 := by rw [hzero, Nat.zero_mul]
      rw [htail, Nat.add_zero]
      simp only [minutesPerDay] at *
      apply Window.times_of_span hopen' hclose
      · omega
      · simp only [minutesPerDay]
        omega
    · rw [if_pos hpos, ← Nat.add_mod_left] at hclose
      obtain ⟨hstop, hbefore⟩ := h.tail_lt hpos
      have htail : r.tail * g.step < r.start * g.step :=
        Nat.mul_lt_mul_of_pos_right hbefore g.step_pos
      have hover : minutesPerDay ≤ r.stop * g.step := by
        rw [hstop]
        exact minutesPerDay_le_slots g.step_pos
      have hspan : min (r.stop * g.step) minutesPerDay - r.start * g.step + r.tail * g.step =
          minutesPerDay + r.tail * g.step - r.start * g.step := by omega
      rw [hspan]
      exact Window.times_of_span hopen' hclose (by omega) (by omega)

end

end FleetSizing.Run
