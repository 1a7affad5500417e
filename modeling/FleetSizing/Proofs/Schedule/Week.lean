import FleetSizing.Window
import Mathlib.Algebra.GroupWithZero.Nat
import Mathlib.Data.List.Perm.Subperm

/-! Windows on a clock that turns once a week. -/
namespace FleetSizing

def minutesPerWeek : Nat := 7 * minutesPerDay

namespace Weekday

/-- Minutes of the week at a minute of a weekday. -/
def clock (day : Weekday) (minute : Nat) : Nat := day.index * minutesPerDay + minute

theorem clock_lt (day : Weekday) {minute : Nat} (h : minute < minutesPerDay) :
    day.clock minute < minutesPerWeek := by
  have hindex := day.index_lt
  simp only [clock, minutesPerWeek, minutesPerDay] at *
  omega

/-- Of days of `n` slots each. -/
theorem position_lt (day : Weekday) {slot n : Nat} (h : slot < n) : day.index * n + slot < 7 * n := by
  calc day.index * n + slot
      < (day.index + 1) * n := by rw [Nat.add_one_mul]; omega
    _ ≤ 7 * n := Nat.mul_le_mul_right _ day.index_lt

theorem index_prev (day : Weekday) : day.prev.index = (day.index + 6) % 7 := by
  cases day <;> rfl

theorem next_ne (day : Weekday) : day.next ≠ day := by
  cases day <;> decide

theorem eq_prev_iff {a b : Weekday} : a = b.prev ↔ a.next = b := by
  constructor
  · rintro rfl
    exact b.next_prev
  · rintro rfl
    exact a.prev_next.symm

/-- A day has its own share in a sum over the week, and one of the day before. -/
theorem sum_all (day : Weekday) (own carried : Weekday → Nat) :
    (all.map fun d => (if d = day then own d else 0) + if d.next = day then carried d else 0).sum =
      own day + carried day.prev := by
  cases day <;> simp [all, next, prev, Nat.add_comm]

/-- The clock shows every minute of the week. -/
theorem exists_clock {q : Nat} (h : q < minutesPerWeek) :
    ∃ (day : Weekday) (minute : Nat), minute < minutesPerDay ∧ day.clock minute = q := by
  refine ⟨ofIndex (q / minutesPerDay), q % minutesPerDay, Nat.mod_lt _ (by decide), ?_⟩
  simp only [clock, index_ofIndex, minutesPerWeek, minutesPerDay] at *
  omega

end Weekday

namespace Window

variable {α : Type} {w : Window α} {d day : Weekday} {minute : Nat}

theorem duration_pos : 0 < w.duration := by
  have hstart := w.start.minute_lt
  unfold duration
  split
  · omega
  · simp only [minutesPerDay]
    omega

theorem duration_le : w.duration ≤ minutesPerDay := by
  have hstop := w.stop.minute_lt
  unfold duration
  simp only [minutesPerDay]
  split <;> omega

/-- Distinct weekdays keep the minutes of a window within those of a week. -/
theorem weeklyMinutes_le (h : w.weekdays.Nodup) : w.weeklyMinutes ≤ minutesPerWeek := by
  have hdays : w.weekdays.length ≤ 7 :=
    (List.subperm_of_subset h fun day _ => Weekday.mem_all day).length_le
  calc w.duration * w.weekdays.length ≤ minutesPerDay * 7 := Nat.mul_le_mul duration_le hdays
    _ = minutesPerWeek := Nat.mul_comm _ _

/-- A window by the minutes at which it opens and closes, those of the next day counted on. -/
theorem times_of_span {opens closes : Nat} (hopen : w.start.minute = opens)
    (hclose : w.stop.minute = closes % minutesPerDay) (hlt : opens < closes)
    (hday : closes < opens + minutesPerDay) : w.start ≠ w.stop ∧ w.duration = closes - opens := by
  have hstart := w.start.minute_lt
  simp only [minutesPerDay] at *
  constructor
  · intro heq
    have hminute := congrArg TimeOfDay.minute heq
    omega
  · unfold duration
    simp only [minutesPerDay]
    split <;> omega

/-- Minutes since a window opened on a weekday. -/
def elapsed (w : Window α) (d day : Weekday) (minute : Nat) : Nat :=
  (day.clock minute + (minutesPerWeek - d.clock w.start.minute)) % minutesPerWeek

theorem elapsed_lt_day (h : minute < minutesPerDay) :
    w.elapsed d day minute < minutesPerDay ↔
      (d = day ∧ w.start.minute ≤ minute) ∨ (d = day.prev ∧ minute < w.start.minute) := by
  have hd := d.index_lt
  have hday := day.index_lt
  have hstart := w.start.minute_lt
  constructor
  · intro hlt
    have hindex : (d.index = day.index ∧ w.start.minute ≤ minute) ∨
        (d.index = (day.index + 6) % 7 ∧ minute < w.start.minute) := by
      simp only [elapsed, Weekday.clock, minutesPerWeek, minutesPerDay] at *
      omega
    rw [← day.index_prev] at hindex
    exact hindex.imp (And.imp_left Weekday.index_inj) (And.imp_left Weekday.index_inj)
  · rintro (⟨rfl, hle⟩ | ⟨rfl, hlt⟩)
    · simp only [elapsed, Weekday.clock, minutesPerWeek, minutesPerDay] at *
      omega
    · have hprev := day.index_prev
      simp only [elapsed, Weekday.clock, minutesPerWeek, minutesPerDay] at *
      omega

theorem elapsed_self (h : w.start.minute ≤ minute) (hm : minute < minutesPerDay) :
    w.elapsed day day minute = minute - w.start.minute := by
  have hday := day.index_lt
  simp only [elapsed, Weekday.clock, minutesPerWeek, minutesPerDay] at *
  omega

theorem elapsed_prev (hm : minute < minutesPerDay) :
    w.elapsed day.prev day minute = minute + minutesPerDay - w.start.minute := by
  have hday := day.index_lt
  have hprev := day.index_prev
  have hstart := w.start.minute_lt
  simp only [elapsed, Weekday.clock, minutesPerWeek, minutesPerDay] at *
  omega

/-- The minutes of a weekday on which a window opens, and those after midnight. -/
theorem contains_iff_or (h : minute < minutesPerDay) :
    w.contains day minute ↔
      (day ∈ w.weekdays ∧ w.start.minute ≤ minute ∧ minute - w.start.minute < w.duration) ∨
      (day.prev ∈ w.weekdays ∧ minute < w.start.minute ∧
        minute + minutesPerDay - w.start.minute < w.duration) := by
  have hstart := w.start.minute_lt
  have hstop := w.stop.minute_lt
  unfold contains duration
  simp only [minutesPerDay] at *
  by_cases hsame : w.start.minute < w.stop.minute
  · simp only [hsame, if_true, Bool.and_eq_true, List.contains_iff_mem, decide_eq_true_eq]
    constructor
    · rintro ⟨⟨hday, hle⟩, hlt⟩
      exact Or.inl ⟨hday, hle, by omega⟩
    · rintro (⟨hday, hle, hlt⟩ | ⟨-, hlt, hover⟩)
      · exact ⟨⟨hday, hle⟩, by omega⟩
      · omega
  · simp only [hsame, if_false]
    split
    · rename_i hle
      rw [List.contains_iff_mem]
      constructor
      · exact fun hday => Or.inl ⟨hday, hle, by omega⟩
      · rintro (⟨hday, -⟩ | ⟨-, hlt, -⟩)
        · exact hday
        · omega
    · rename_i hlt
      rw [Bool.and_eq_true, decide_eq_true_eq, List.contains_iff_mem]
      constructor
      · rintro ⟨hbefore, hday⟩
        exact Or.inr ⟨hday, by omega, by omega⟩
      · rintro (⟨-, hle, -⟩ | ⟨hday, -, hbefore⟩)
        · omega
        · exact ⟨by omega, hday⟩

/-- A window contains the minutes up to its duration after it opened on one of its weekdays. -/
theorem contains_iff (h : minute < minutesPerDay) :
    w.contains day minute ↔ ∃ d ∈ w.weekdays, w.elapsed d day minute < w.duration := by
  rw [contains_iff_or h]
  constructor
  · rintro (⟨hday, hle, hlt⟩ | ⟨hday, -, hlt⟩)
    · exact ⟨day, hday, by rw [elapsed_self hle h]; exact hlt⟩
    · exact ⟨day.prev, hday, by rw [elapsed_prev h]; exact hlt⟩
  · rintro ⟨d, hd, helapsed⟩
    rcases (elapsed_lt_day h).mp (Nat.lt_of_lt_of_le helapsed duration_le) with
      ⟨rfl, hle⟩ | ⟨rfl, hlt⟩
    · exact Or.inl ⟨hd, hle, by rwa [elapsed_self hle h] at helapsed⟩
    · exact Or.inr ⟨hd, hlt, by rwa [elapsed_prev h] at helapsed⟩

end Window

end FleetSizing
