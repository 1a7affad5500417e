import FleetSizing.Proofs.Schedule.Coverage
import FleetSizing.Proofs.Schedule.Weekdays
import FleetSizing.Proofs.Stats.Bounds
import FleetSizing.Savings
import Mathlib.Tactic.FieldSimp
import Mathlib.Tactic.NormNum

/-! How many minutes of the week windows contain. Windows that do not overlap contain as many as their
lengths add up to, and a schedule is priced at that share of the week. -/
namespace FleetSizing

section

variable {β γ : Type} {xs : List β}

theorem countP_or {p q : β → Bool} (h : ∀ x ∈ xs, ¬ (p x ∧ q x)) :
    xs.countP (fun x => p x || q x) = xs.countP p + xs.countP q := by
  induction xs with
  | nil => rfl
  | cons x xs ih =>
    have hx := h x List.mem_cons_self
    rw [List.countP_cons, List.countP_cons, List.countP_cons,
      ih fun y hy => h y (List.mem_cons_of_mem _ hy)]
    cases hp : p x <;> cases hq : q x <;> simp [hp, hq] at hx ⊢ <;> omega

/-- Alternatives that exclude each other are counted one by one. -/
theorem countP_any {ps : List γ} {p : γ → β → Bool}
    (h : ps.Pairwise fun a b => ∀ x ∈ xs, ¬ (p a x ∧ p b x)) :
    xs.countP (fun x => ps.any (p · x)) = (ps.map fun a => xs.countP (p a)).sum := by
  induction ps with
  | nil => simp
  | cons a ps ih =>
    obtain ⟨hhead, htail⟩ := List.pairwise_cons.mp h
    simp only [List.any_cons]
    rw [countP_or, ih htail, List.map_cons, List.sum_cons]
    rintro x hx ⟨ha, hany⟩
    obtain ⟨b, hb, hpb⟩ := List.any_eq_true.mp hany
    exact hhead b hb x hx ⟨ha, hpb⟩

end

theorem countP_range_between (a b n : Nat) :
    (List.range n).countP (fun i => a ≤ i && i < b) = min b n - a := by
  induction n with
  | zero => simp
  | succ n ih =>
    rw [List.range_succ, List.countP_append, ih, List.countP_singleton]
    split <;> simp at * <;> omega

theorem countP_and_between (c : Bool) (a b n : Nat) :
    (List.range n).countP (fun i => c && (a ≤ i && i < b)) = if c then min b n - a else 0 := by
  cases c
  · simp
  · simpa using countP_range_between a b n

/-- Every minute of the week. -/
def minutesOfWeek : List (Weekday × Nat) :=
  Weekday.all.flatMap fun day => (List.range minutesPerDay).map (day, ·)

theorem mem_minutesOfWeek {p : Weekday × Nat} : p ∈ minutesOfWeek ↔ p.2 < minutesPerDay := by
  obtain ⟨day, minute⟩ := p
  simp [minutesOfWeek, Weekday.mem_all]

theorem length_minutesOfWeek : minutesOfWeek.length = minutesPerWeek := by
  simp [minutesOfWeek, Weekday.all, minutesPerWeek, minutesPerDay]

namespace Weekday

variable {days : List Weekday}

/-- As many days of the week are among some days as those are. -/
theorem countP_mem (h : days.Nodup) : all.countP (fun day => days.contains day) = days.length := by
  rw [List.countP_eq_length_filter]
  apply List.Perm.length_eq
  have hall : all.Nodup := by decide
  rw [List.perm_ext_iff_of_nodup (hall.filter _) h]
  simp [mem_all]

/-- And as many come right after one of them. -/
theorem countP_prev_mem (h : days.Nodup) :
    all.countP (fun day => days.contains day.prev) = days.length := by
  have hshift : (all.map prev).Perm all := by decide
  calc all.countP (fun day => days.contains day.prev)
      = (all.map prev).countP (fun day => days.contains day) := by
        rw [List.countP_map]
        rfl
    _ = all.countP (fun day => days.contains day) := hshift.countP_eq _
    _ = days.length := countP_mem h

end Weekday

namespace Window

variable {α : Type} {w : Window α} {day : Weekday}

/-- A day has the minutes from the opening on where the window opens on it, and those after midnight
where it opened on the day before. -/
theorem countP_contains_day (w : Window α) (day : Weekday) :
    (List.range minutesPerDay).countP (fun minute => w.contains day minute) =
      (if w.weekdays.contains day then min w.close minutesPerDay - w.start.minute else 0) +
        if w.weekdays.contains day.prev then w.close - minutesPerDay else 0 := by
  have hlt := w.start.minute_lt
  have hle := w.duration_le
  have hsplit : ∀ minute ∈ List.range minutesPerDay, w.contains day minute =
      ((w.weekdays.contains day && (w.start.minute ≤ minute && minute < w.close)) ||
        (w.weekdays.contains day.prev && (0 ≤ minute && minute < w.close - minutesPerDay))) := by
    intro minute hm
    have hm' := List.mem_range.mp hm
    rw [Bool.eq_iff_iff, contains_iff_or hm']
    simp only [Bool.or_eq_true, Bool.and_eq_true, decide_eq_true_eq, List.contains_iff_mem]
    simp only [close, minutesPerDay] at *
    refine or_congr (and_congr_right fun _ => ?_) (and_congr_right fun _ => ?_) <;> omega
  have hexclude : ∀ minute ∈ List.range minutesPerDay,
      ¬ ((w.weekdays.contains day && (w.start.minute ≤ minute && minute < w.close)) ∧
        (w.weekdays.contains day.prev && (0 ≤ minute && minute < w.close - minutesPerDay))) := by
    intro minute _
    simp only [Bool.and_eq_true, decide_eq_true_eq]
    simp only [close, minutesPerDay] at *
    omega
  rw [List.countP_congr fun minute hm => by rw [hsplit minute hm], countP_or hexclude,
    countP_and_between, countP_and_between]
  have hcarried : min (w.close - minutesPerDay) minutesPerDay - 0 = w.close - minutesPerDay := by
    simp only [close, minutesPerDay] at *
    omega
  rw [hcarried]

theorem sum_map_ite {β : Type} (xs : List β) (p : β → Bool) (c : Nat) :
    (xs.map fun x => if p x then c else 0).sum = xs.countP p * c := by
  induction xs with
  | nil => simp
  | cons x xs ih =>
    rw [List.map_cons, List.sum_cons, ih, List.countP_cons, Nat.add_mul]
    cases p x <;> simp [Nat.add_comm]

/-- A window contains as many minutes of the week as its length and its weekdays make. -/
theorem countP_contains (h : w.weekdays.Nodup) :
    minutesOfWeek.countP (fun p => w.contains p.1 p.2) = w.weeklyMinutes := by
  have hstart := w.start.minute_lt
  have hpos := w.duration_pos
  have hlength : min w.close minutesPerDay - w.start.minute + (w.close - minutesPerDay) = w.duration := by
    simp only [close, minutesPerDay]
    omega
  calc minutesOfWeek.countP (fun p => w.contains p.1 p.2)
      = (Weekday.all.map fun day =>
          (List.range minutesPerDay).countP fun minute => w.contains day minute).sum := by
        rw [minutesOfWeek, List.countP_flatMap]
        simp only [Function.comp_def, List.countP_map]
    _ = Weekday.all.countP (fun day => w.weekdays.contains day) *
            (min w.close minutesPerDay - w.start.minute) +
          Weekday.all.countP (fun day => w.weekdays.contains day.prev) *
            (w.close - minutesPerDay) := by
        simp only [countP_contains_day, List.sum_map_add, sum_map_ite]
    _ = w.weeklyMinutes := by
        rw [Weekday.countP_mem h, Weekday.countP_prev_mem h, ← Nat.mul_add, hlength, weeklyMinutes,
          Nat.mul_comm]

/-- Minutes of the week in which some window is open. -/
def openMinutes (ws : List (Window α)) : Nat :=
  minutesOfWeek.countP fun p => ws.any fun w => w.contains p.1 p.2

/-- Windows that do not overlap are open as many minutes as their lengths add up to. -/
theorem openMinutes_eq_sum {ws : List (Window α)} (hdays : ∀ w ∈ ws, w.weekdays.Nodup)
    (hapart : ws.Pairwise Apart) : openMinutes ws = (ws.map weeklyMinutes).sum := by
  have hexclude : ws.Pairwise fun v w => ∀ p ∈ minutesOfWeek,
      ¬ (v.contains p.1 p.2 ∧ w.contains p.1 p.2) := by
    refine hapart.imp fun hnone p hp => ?_
    exact hnone p.1 p.2 (mem_minutesOfWeek.mp hp)
  rw [openMinutes, countP_any hexclude]
  exact congrArg List.sum (List.map_congr_left fun w hw => countP_contains (hdays w hw))

theorem openMinutes_le (ws : List (Window α)) : openMinutes ws ≤ minutesPerWeek := by
  rw [← length_minutesOfWeek]
  exact List.countP_le_length

/-- Share of the week in which some window is open. -/
def openShare (ws : List (Window α)) : Rat := (openMinutes ws : Rat) / (minutesPerWeek : Rat)

theorem openShare_le_one (ws : List (Window α)) : openShare ws ≤ 1 := by
  have hpos : (0 : Rat) < (minutesPerWeek : Rat) := by decide
  exact (div_le_one hpos).mpr (Rat.natCast_le_natCast.mpr (openMinutes_le ws))

theorem coverage_eq (w : Window Rat) :
    w.coverage = (w.weeklyMinutes : Rat) / (minutesPerWeek : Rat) := by
  simp only [coverage, weeklyMinutes, minutesPerWeek, minutesPerDay]
  push_cast
  ring

theorem sum_coverage (ws : List (Window Rat)) : Scalar.sum (ws.map coverage) =
    ((ws.map weeklyMinutes).sum : Rat) / (minutesPerWeek : Rat) := by
  induction ws with
  | nil => exact (zero_div _).symm
  | cons w ws ih =>
    rw [List.map_cons, Scalar.sum_cons, ih, coverage_eq, List.map_cons, List.sum_cons]
    push_cast
    ring

theorem IsMade.nodup [Scalar α] (h : w.IsMade) : w.weekdays.Nodup := nodup_of_earlier h.pairwise

theorem sum_coverage_eq_openShare {ws : List (Window Rat)} (hmade : ∀ w ∈ ws, w.IsMade)
    (hapart : ws.Pairwise Apart) : Scalar.sum (ws.map coverage) = openShare ws := by
  rw [sum_coverage, openShare, openMinutes_eq_sum (fun w hw => (hmade w hw).nodup) hapart]

end Window

namespace Savings

open Window

theorem scheduledShare_eq {ws : List (Window Rat)} (hmade : ∀ w ∈ ws, w.IsMade)
    (hapart : ws.Pairwise Apart) : scheduledShare ws = openShare ws := by
  have hle : ¬ ((1 : Nat) : Rat) < openShare ws := Rat.not_lt.mpr (openShare_le_one ws)
  rw [scheduledShare, sum_coverage_eq_openShare hmade hapart, Scalar.smaller, if_neg hle,
    if_pos (BEq.refl _)]

/-- A window contains as many minutes of the week as its length and its weekdays make. Windows that do
not overlap cover the share of the week in which one of them is open, and a schedule of them is priced
at that share. -/
theorem schedule_priced_at_openShare {α : Type} [Scalar α] :
    (∀ w : Window α, w.IsMade →
      minutesOfWeek.countP (fun p => w.contains p.1 p.2) = w.weeklyMinutes) ∧
    ∀ ws : List (Window Rat), (∀ w ∈ ws, w.IsMade) → ws.Pairwise Apart →
      Scalar.sum (ws.map coverage) = openShare ws ∧ openShare ws ≤ 1 ∧
      ∀ (price : String → Option Rat) (report : Report Rat) (shape : String) (current : Rat),
        price shape = some current → report.customSchedule? = some ws →
        priced price report shape .schedule =
          .ok [option .schedule current (current * openShare ws) (some (.schedule ws))] := by
  refine ⟨fun w hw => countP_contains hw.nodup, fun ws hmade hapart => ?_⟩
  refine ⟨sum_coverage_eq_openShare hmade hapart, openShare_le_one ws, ?_⟩
  intro price report shape current hprice hcustom
  simp only [priced, hprice, ofAction, hcustom]
  rw [scheduledShare_eq hmade hapart]

/-! Two nights, the first of which ends the week, a day from nine to nine, and a morning. -/
namespace Nights

def windows : List (Window Rat) :=
  [make [.mon, .sun] (.ofMinute 1320) (.ofMinute 360) 1, make [.wed] (.ofMinute 540) (.ofMinute 540) 1,
    make [.fri] (.ofMinute 480) (.ofMinute 720) 1]

def report : Report Rat := { resource := "i-1", actions := [.schedule], schedule := some windows }

theorem isMade_windows : ∀ w ∈ windows, w.IsMade := by
  intro w hw
  simp only [windows, List.mem_cons, List.not_mem_nil, or_false] at hw
  rcases hw with rfl | rfl | rfl <;> exact ⟨_, _, _, _, rfl⟩

theorem apart_windows : windows.Pairwise Apart := by
  simp only [windows, List.pairwise_cons, List.mem_cons, List.not_mem_nil, or_false,
    forall_eq_or_imp, forall_eq, List.Pairwise.nil, and_true, IsEmpty.forall_iff, implies_true]
  refine ⟨⟨?_, ?_⟩, ?_⟩ <;> rintro day minute hm ⟨hv, hw⟩ <;> cases day <;>
    simp [contains, make, orderedDays, Weekday.all, Weekday.prev] at hv hw

end Nights

theorem schedule_priced_at_openShare_nights :
    (∀ w ∈ Nights.windows, w.IsMade) ∧ Nights.windows.Pairwise Apart ∧
      Nights.report.customSchedule? = some Nights.windows ∧
      priced (fun _ => some 1008) Nights.report "m5.large" .schedule =
        .ok [option .schedule 1008 264 (some (.schedule Nights.windows))] := by
  obtain ⟨hshare, -, hpriced⟩ := (schedule_priced_at_openShare (α := Rat)).2 Nights.windows
    Nights.isMade_windows Nights.apart_windows
  refine ⟨Nights.isMade_windows, Nights.apart_windows, rfl, ?_⟩
  rw [hpriced _ _ _ _ rfl rfl, ← hshare]
  have hsum : Scalar.sum (Nights.windows.map coverage) = 2640 / 10080 := by decide +kernel
  rw [hsum]
  congr 3
  norm_num

end Savings

end FleetSizing
