import FleetSizing.Calendar.Day

/-! Every day has a date, and the day of that date is the day itself. Within an era of four hundred years the
year of a day is found by a quotient, which is right since it grows with the day and is right on the first
and on the last day of each year. -/
namespace FleetSizing.Day

/-- Days of an era before a year of the era, which starts in March. -/
def yearStart (year : Int) : Int := year * 365 + year / 4 - year / 100 + year / 400

/-- Days of an era without those that leap years add before them. -/
def evened (dayOfEra : Int) : Int := dayOfEra - dayOfEra / 1460 + dayOfEra / 36524 - dayOfEra / 146096

theorem evened_mono {a b : Int} (h : a ≤ b) : evened a ≤ evened b := by
  have hfours : a - a / 1460 ≤ b - b / 1460 := by omega
  have hcenturies : a / 36524 - a / 36524 / 4 ≤ b / 36524 - b / 36524 / 4 := by omega
  unfold evened
  omega

/-- First and last days of the years of an era. -/
theorem evened_yearStart (n : Nat) (h : n ≤ 400) :
    (n < 400 → (n : Int) * 365 ≤ evened (yearStart n)) ∧
      (0 < n → evened (yearStart n - 1) < (n : Int) * 365) := by
  have hall : ∀ n : Fin 401, (n.val < 400 → (n.val : Int) * 365 ≤ evened (yearStart n.val)) ∧
      (0 < n.val → evened (yearStart n.val - 1) < (n.val : Int) * 365) := by
    decide +kernel
  exact hall ⟨n, by omega⟩

/-- The quotient is the year that a day of an era lies in. -/
theorem yearStart_le (dayOfEra : Int) (h0 : 0 ≤ dayOfEra) (h1 : dayOfEra < 146097) :
    0 ≤ evened dayOfEra / 365 ∧ evened dayOfEra / 365 < 400 ∧
      yearStart (evened dayOfEra / 365) ≤ dayOfEra ∧
      dayOfEra < yearStart (evened dayOfEra / 365 + 1) := by
  have hleast : evened 0 ≤ evened dayOfEra := evened_mono h0
  have hgreatest : evened dayOfEra ≤ evened 146096 := evened_mono (by omega)
  have hzero : evened 0 = 0 := rfl
  have hlast : evened 146096 = 145999 := rfl
  obtain ⟨n, hn⟩ := Int.eq_ofNat_of_zero_le (show 0 ≤ evened dayOfEra / 365 by omega)
  have hn400 : n < 400 := by omega
  rw [hn]
  refine ⟨by omega, by omega, Int.not_lt.mp fun hlt => ?_, Int.not_le.mp fun hge => ?_⟩
  · by_cases hpos : 0 < n
    · have hmono : evened dayOfEra ≤ evened (yearStart n - 1) := evened_mono (by omega)
      have hbefore := (evened_yearStart n (by omega)).2 hpos
      omega
    · obtain rfl : n = 0 := by omega
      have hstart : yearStart (0 : Nat) = 0 := rfl
      omega
  · by_cases hnext : n + 1 < 400
    · have hmono : evened (yearStart (n + 1 : Nat)) ≤ evened dayOfEra := evened_mono hge
      have hafter := (evened_yearStart (n + 1) (by omega)).1 hnext
      omega
    · obtain rfl : n = 399 := by omega
      have hend : yearStart ((399 : Nat) + 1) = 146097 := rfl
      omega

theorem isLeap_iff {year : Int} :
    isLeap year ↔ year % 4 = 0 ∧ (year % 100 ≠ 0 ∨ year % 400 = 0) := by
  simp [isLeap]

/-- How much later the next year starts. -/
theorem yearStart_succ {year : Int} (h0 : 0 ≤ year) (h1 : year < 400) :
    yearStart (year + 1) ≤ yearStart year + 366 ∧
      (yearStart (year + 1) = yearStart year + 366 → ∀ era, isLeap (year + era * 400 + 1)) := by
  have hyear : year / 400 = 0 := by omega
  have hfour : (year + 1) / 4 = year / 4 ∨
      (year + 1) / 4 = year / 4 + 1 ∧ (year + 1) % 4 = 0 := by omega
  have hcentury : (year + 1) / 100 = year / 100 ∧ (year + 1) % 100 ≠ 0 ∧ (year + 1) / 400 = 0 ∨
      (year + 1) / 100 = year / 100 + 1 ∧ (year + 1) / 400 = 0 ∨
      (year + 1) / 100 = year / 100 + 1 ∧ (year + 1) / 400 = 1 ∧ year = 399 := by omega
  unfold yearStart
  constructor
  · omega
  · intro hlong era
    rw [isLeap_iff]
    have hleap : (year + 1) % 4 = 0 ∧ ((year + 1) % 100 ≠ 0 ∨ year = 399) := by omega
    omega

/-- The date of a day by its era, the year in it, the day of that year and the month it is in, all counted
from March. -/
theorem exists_fromMarch (d : Day) : ∃ era year day month : Int,
    (0 ≤ year ∧ year < 400) ∧ (0 ≤ day ∧ day ≤ 365) ∧ month = (5 * day + 2) / 153 ∧
      (day = 365 → isLeap (year + era * 400 + 1)) ∧
      d.number + 719468 = era * 146097 + (year * 365 + year / 4 - year / 100 + day) ∧
      d.civil = ⟨if month < 10 then year + era * 400 else year + era * 400 + 1,
        (if month < 10 then month + 3 else month - 9).toNat,
        (day - (153 * month + 2) / 5 + 1).toNat⟩ := by
  have hera : Int.fdiv (d.number + 719468) 146097 = (d.number + 719468) / 146097 :=
    Int.fdiv_eq_ediv_of_nonneg _ (by decide)
  generalize hdayOfEra : d.number + 719468 - (d.number + 719468) / 146097 * 146097 = dayOfEra
  obtain ⟨hleast, hgreatest, hstart, hend⟩ :=
    yearStart_le dayOfEra (by omega) (by omega)
  generalize hyear : evened dayOfEra / 365 = year at *
  obtain ⟨hlength, hleap⟩ := yearStart_succ hleast hgreatest
  have hyearStart : yearStart year = 365 * year + year / 4 - year / 100 := by
    unfold yearStart
    omega
  refine ⟨(d.number + 719468) / 146097, year, dayOfEra - (365 * year + year / 4 - year / 100), _,
    ⟨hleast, hgreatest⟩, by omega, rfl, fun _ => hleap (by omega) _, by omega, ?_⟩
  unfold evened at hyear
  simp only [civil, hera, hdayOfEra, hyear, CivilDate.mk.injEq, and_true]
  generalize hmonth : (5 * (dayOfEra - (365 * year + year / 4 - year / 100)) + 2) / 153 = month
  have hrange : 0 ≤ month ∧ month ≤ 11 := by omega
  split <;> split <;> omega

/-- The months from March on. -/
theorem daysInMonth_fromMarch {year day month : Int} (hday : 0 ≤ day ∧ day ≤ 365)
    (hmonth : month = (5 * day + 2) / 153) (hleap : day = 365 → isLeap (year + 1)) :
    day - (153 * month + 2) / 5 + 1 ≤ daysInMonth (if month < 10 then year else year + 1)
      (if month < 10 then month + 3 else month - 9).toNat := by
  by_cases hlate : month < 10
  · rw [if_pos hlate, if_pos hlate, daysInMonth, if_neg (by omega)]
    split <;> omega
  · rw [if_neg hlate, if_neg hlate, daysInMonth]
    by_cases hfebruary : month = 11
    · rw [if_pos (by omega)]
      split
      · omega
      · rename_i hnot
        have hbefore : day ≠ 365 := fun h => hnot (hleap h)
        omega
    · rw [if_neg (by omega), if_neg (by omega)]
      omega

theorem ofCivil_civil (d : Day) : ofCivil d.civil = d := by
  obtain ⟨era, year, day, month, hyear, hday, hmonth, -, hnumber, hcivil⟩ := d.exists_fromMarch
  have hrange : 0 ≤ month ∧ month ≤ 11 := by omega
  have hcount : Int.fdiv (year + era * 400) 400 = era := by
    rw [Int.fdiv_eq_ediv_of_nonneg _ (by decide)]
    omega
  have hdayNumber : (((day - (153 * month + 2) / 5 + 1).toNat : Nat) : Int) =
      day - (153 * month + 2) / 5 + 1 := by omega
  rw [hcivil]
  by_cases hlate : month < 10
  · have hafter : ¬ (month + 3).toNat ≤ 2 := by omega
    have hshift : ((((month + 3).toNat : Nat) : Int) + 9) % 12 = month := by omega
    simp only [ofCivil, if_pos hlate, if_neg hafter, hcount, hshift, hdayNumber]
    exact congrArg Day.mk (by omega)
  · have hbefore : (month - 9).toNat ≤ 2 := by omega
    have hshift : ((((month - 9).toNat : Nat) : Int) + 9) % 12 = month := by omega
    simp only [ofCivil, if_neg hlate, if_pos hbefore, Int.add_sub_cancel, hcount, hshift, hdayNumber]
    exact congrArg Day.mk (by omega)

theorem civil_bounds (d : Day) : 1 ≤ d.civil.month ∧ d.civil.month ≤ 12 ∧ 1 ≤ d.civil.day ∧
    d.civil.day ≤ daysInMonth d.civil.year d.civil.month := by
  obtain ⟨era, year, day, month, hyear, hday, hmonth, hleap, -, hcivil⟩ := d.exists_fromMarch
  have hlength := daysInMonth_fromMarch hday hmonth hleap
  rw [hcivil]
  refine ⟨?_, ?_, ?_, ?_⟩
  · simp only
    split <;> omega
  · simp only
    split <;> omega
  · simp only
    omega
  · simp only
    omega

/-- Days within bounds lie in years within bounds. -/
theorem year_bounds {d : Day} (h : d.inRange) :
    CivilDate.leastYear ≤ d.civil.year ∧ d.civil.year ≤ CivilDate.greatestYear := by
  have hleast : least.number = -96465292 := by decide
  have hgreatest : greatest.number = 95026236 := by decide
  have hbounds : least.number ≤ d.number ∧ d.number ≤ greatest.number := by
    simpa [inRange] using h
  rw [hleast, hgreatest] at hbounds
  obtain ⟨era, year, day, month, hyear, hday, hmonth, -, hnumber, hcivil⟩ := d.exists_fromMarch
  rw [hcivil, CivilDate.leastYear, CivilDate.greatestYear]
  simp only
  constructor
  · split <;> omega
  · have hera : era = 655 ∨ era ≤ 654 := by omega
    rcases hera with rfl | hera
    · split <;> omega
    · split <;> omega

theorem ofCivil?_civil {d : Day} (h : d.inRange) : ofCivil? d.civil = some d := by
  obtain ⟨hmonth, hmonth', hday, hday'⟩ := d.civil_bounds
  obtain ⟨hyear, hyear'⟩ := year_bounds h
  rw [ofCivil?, if_pos ⟨hyear, hyear', hmonth, hmonth', hday, hday'⟩, ofCivil_civil]

end FleetSizing.Day
