import FleetSizing.Calendar.Instant
import FleetSizing.Proofs.Calendar.Civil
import FleetSizing.Proofs.Calendar.Epoch
import Mathlib.Algebra.Group.Nat.Defs

/-! Times, days and instants are read as what was written for them. Numbers are written with as many digits
as are read at most, so that no number is read on into the next; only a year with a sign is read as far as
its digits go. -/
namespace FleetSizing

variable {c : Char} {cs ds rest : List Char} {n width : Nat}

theorem Blank.isBlank_of_isDigit (h : c.isDigit) : isBlank c = false := by
  have hrange : 48 ≤ c.toNat ∧ c.toNat ≤ 57 := by
    simpa [Char.isDigit, UInt32.le_iff_toNat_le] using h
  simp [isBlank, ranges]
  omega

theorem Blank.skip_nil : skip [] = [] := rfl

theorem Blank.skip_cons (h : isBlank c = false) : skip (c :: cs) = c :: cs := by
  simp [skip, h]

namespace Scan

/-- The text goes on with no digit, if it goes on. -/
def Stops (rest : List Char) : Prop := ∀ c, rest.head? = some c → c.isDigit = false

theorem decimalValue_eq (ds : List Char) : decimalValue ds = Nat.ofDigitChars 10 ds 0 := by
  rw [decimalValue, Nat.ofDigitChars_eq_foldl]
  congr 1
  funext m c
  rw [Nat.mul_comm]
  rfl

theorem toList_padded : (padded width n).toList =
    List.replicate (width - (Nat.toDigits 10 n).length) '0' ++ Nat.toDigits 10 n :=
  String.toList_ofList

theorem isDigit_of_mem_padded (h : c ∈ (padded width n).toList) : c.isDigit := by
  rw [toList_padded, List.mem_append, List.mem_replicate] at h
  rcases h with ⟨-, rfl⟩ | h
  · rfl
  · exact Nat.isDigit_of_mem_toDigits (by decide) (by decide) h

theorem decimalValue_padded : decimalValue (padded width n).toList = n := by
  rw [toList_padded, decimalValue_eq, Nat.ofDigitChars_append, Nat.ofDigitChars_replicate_zero,
    Nat.mul_zero]
  exact Nat.ofDigitChars_toDigits (by decide) (by decide)

theorem padded_ne_nil (width n : Nat) : (padded width n).toList ≠ [] := by
  simp [toList_padded, Nat.toDigits_ne_nil]

theorem length_padded (hwidth : 0 < width) (h : n < 10 ^ width) :
    (padded width n).toList.length = width := by
  have hdigits := (Nat.length_toDigits_le_iff (b := 10) (by decide) hwidth).mpr h
  rw [toList_padded, List.length_append, List.length_replicate]
  omega

theorem takeWhile_isDigit_append (hds : ∀ c ∈ ds, c.isDigit) (hrest : Stops rest) :
    (ds ++ rest).takeWhile Char.isDigit = ds := by
  rw [List.takeWhile_append_of_pos hds]
  cases rest with
  | nil => simp
  | cons c rest => simp [hrest c rfl]

theorem stops_nil : Stops [] := fun _ => nofun

theorem Stops.take (h : Stops rest) (n : Nat) : Stops (rest.take n) := by
  intro c hc
  refine h c ?_
  cases n with
  | zero => cases hc
  | succ n =>
    cases rest with
    | nil => cases hc
    | cons d rest => exact hc

theorem Stops.dropWhile_isDigit (h : Stops rest) : rest.dropWhile Char.isDigit = rest := by
  cases rest with
  | nil => rfl
  | cons c rest => simp [h c rfl]

/-- Digits are read as far as they go, or as many as are read at most. -/
theorem digits?_append (hds : ∀ c ∈ ds, c.isDigit) (hne : ds ≠ []) (hlength : ds.length ≤ width)
    (hstop : ds.length = width ∨ Stops rest) :
    digits? width (ds ++ rest) = some (decimalValue ds, rest) := by
  have htake : ((ds ++ rest).take width).takeWhile Char.isDigit = ds := by
    rw [List.take_append, List.take_of_length_le hlength]
    refine takeWhile_isDigit_append hds ?_
    rcases hstop with hwidth | hrest
    · simp [hwidth, Stops]
    · exact hrest.take _
  rw [digits?, htake]
  simp [hne]

theorem exists_padded_cons (width n : Nat) :
    ∃ c cs, (padded width n).toList = c :: cs ∧ c.isDigit := by
  obtain ⟨c, cs, hcs⟩ := List.exists_cons_of_ne_nil (padded_ne_nil width n)
  exact ⟨c, cs, hcs, isDigit_of_mem_padded (hcs ▸ List.mem_cons_self)⟩

theorem skip_padded : Blank.skip ((padded width n).toList ++ rest) =
    (padded width n).toList ++ rest := by
  obtain ⟨c, cs, hcs, hdigit⟩ := exists_padded_cons width n
  rw [hcs, List.cons_append]
  exact Blank.skip_cons (Blank.isBlank_of_isDigit hdigit)

theorem digits?_padded (hwidth : 0 < width) (h : n < 10 ^ width) :
    digits? width ((padded width n).toList ++ rest) = some (n, rest) := by
  have hlength := length_padded hwidth h
  rw [digits?_append (fun _ => isDigit_of_mem_padded) (padded_ne_nil _ _) (Nat.le_of_eq hlength)
    (.inl hlength), decimalValue_padded]

theorem number?_padded (hwidth : 0 < width) (h : n < 10 ^ width) :
    number? width ((padded width n).toList ++ rest) = some (n, rest) := by
  rw [number?, skip_padded, digits?_padded hwidth h]

theorem bounded?_padded {lo hi : Nat} (hwidth : 0 < width) (h : n < 10 ^ width) (hlo : lo ≤ n)
    (hhi : n ≤ hi) : bounded? width lo hi ((padded width n).toList ++ rest) = some (n, rest) := by
  simp [bounded?, number?_padded hwidth h, hlo, hhi]

theorem mark?_cons (h : Blank.isBlank c = false) : mark? c (c :: rest) = some rest := by
  simp [mark?, Blank.skip_cons h]

/-- A point and so many digits of a fraction. -/
theorem fraction?_point (hwidth : 0 < width) (hnine : width ≤ 9) (h : n < 10 ^ width)
    (hrest : Stops rest) : fraction? (("." ++ padded width n).toList ++ rest) =
      some (n * pow10 (9 - width), rest) := by
  have hpoint : ("." ++ padded width n).toList ++ rest = '.' :: ((padded width n).toList ++ rest) := by
    have hmark : ".".toList = ['.'] := rfl
    rw [String.toList_append, hmark, List.append_assoc, List.singleton_append]
  have hlength := length_padded hwidth h
  have hempty : (padded width n).toList.isEmpty = false := by simpa using padded_ne_nil width n
  have htake : (((padded width n).toList ++ rest).take 9).takeWhile Char.isDigit =
      (padded width n).toList := by
    rw [List.take_append, List.take_of_length_le (by omega)]
    exact takeWhile_isDigit_append (fun _ => isDigit_of_mem_padded) (hrest.take _)
  have hdrop : ((padded width n).toList ++ rest).drop width = rest := List.drop_left' hlength
  rw [hpoint]
  simp only [fraction?, htake, hempty, decimalValue_padded, hlength, hdrop, hrest.dropWhile_isDigit]
  rfl

/-- A fraction is read in nanoseconds, however many digits were written. -/
theorem fraction?_fractionText (h : n < 1000000000) (hrest : Stops rest)
    (hpoint : ∀ cs, rest ≠ '.' :: cs) :
    fraction? ((fractionText n).toList ++ rest) = some (n, rest) := by
  unfold fractionText
  split
  · rename_i hzero
    subst hzero
    unfold fraction?
    split
    · rename_i cs hcs
      exact (hpoint cs hcs).elim
    · rfl
  · split
    · rw [fraction?_point (by decide) (by decide) (by omega) hrest]
      have hnano : n / 1000000 * 1000000 = n := by omega
      exact congrArg (fun m => some (m, rest)) hnano
    · split
      · rw [fraction?_point (by decide) (by decide) (by omega) hrest]
        have hnano : n / 1000 * 1000 = n := by omega
        exact congrArg (fun m => some (m, rest)) hnano
      · rw [fraction?_point (by decide) (by decide) (by omega) hrest]
        exact congrArg (fun m => some (m, rest)) (Nat.mul_one n)

end Scan

namespace TimeOfDay

/-- A leap second follows the last second of a minute. -/
def Regular (t : TimeOfDay) : Prop := t.nano < 1000000000 ∨ t.second = 59

theorem make?_eq {t : TimeOfDay} {second nano : Nat}
    (hsecond : (if second = 60 then 59 else second) = t.second)
    (hnano : (if second = 60 then nano + 1000000000 else nano) = t.nano) :
    make? (t.minute / 60) (t.minute % 60) second nano = some t := by
  have hminute : t.minute / 60 * 60 + t.minute % 60 = t.minute := by omega
  unfold make?
  simp only [hsecond, hnano, hminute]
  exact dif_pos ⟨t.minute_lt, by omega, t.second_lt, t.nano_lt⟩

/-- A time is read up to the text after it, by its parts. -/
theorem render_parts {t : TimeOfDay} (h : t.Regular) (hrest : Scan.Stops rest)
    (hpoint : ∀ cs, rest ≠ '.' :: cs) : ∃ afterHour beforeMinute afterMinute second nano,
      Scan.bounded? 2 0 23 (t.render.toList ++ rest) = some (t.minute / 60, afterHour) ∧
      Scan.mark? ':' afterHour = some beforeMinute ∧
      Scan.bounded? 2 0 59 beforeMinute = some (t.minute % 60, afterMinute) ∧
      seconds? afterMinute = some (second, nano, rest) ∧
      make? (t.minute / 60) (t.minute % 60) second nano = some t := by
  have hminute := t.minute_lt
  have hsecond := t.second_lt
  have hnano := t.nano_lt
  generalize hs : (if t.nano < 1000000000 then t.second else t.second + 1) = s
  generalize hn : (if t.nano < 1000000000 then t.nano else t.nano - 1000000000) = n
  have hcolon : Blank.isBlank ':' = false := by decide
  have hrender : t.render.toList ++ rest = (Scan.padded 2 (t.minute / 60)).toList ++
      ':' :: ((Scan.padded 2 (t.minute % 60)).toList ++
        ':' :: ((Scan.padded 2 s).toList ++ ((Scan.fractionText n).toList ++ rest))) := by
    have hmark : ":".toList = [':'] := rfl
    simp only [render, hs, hn, String.toList_append, hmark, List.append_assoc, List.cons_append,
      List.nil_append]
  have hseconds : seconds? (':' :: ((Scan.padded 2 s).toList ++
      ((Scan.fractionText n).toList ++ rest))) = some (s, n, rest) := by
    have hs60 : s ≤ 60 := by split at hs <;> omega
    have hn9 : n < 1000000000 := by split at hn <;> omega
    simp [seconds?, Scan.mark?_cons hcolon, Scan.bounded?_padded (by decide : 0 < 2)
      (by omega : s < 10 ^ 2) (Nat.zero_le s) hs60, Scan.fraction?_fractionText hn9 hrest hpoint]
  generalize ':' :: ((Scan.padded 2 s).toList ++ ((Scan.fractionText n).toList ++ rest)) =
    afterMinute at hrender hseconds
  refine ⟨':' :: ((Scan.padded 2 (t.minute % 60)).toList ++ afterMinute),
    (Scan.padded 2 (t.minute % 60)).toList ++ afterMinute, afterMinute, s, n, ?_,
    Scan.mark?_cons hcolon, ?_, hseconds, ?_⟩
  · rw [hrender]
    exact Scan.bounded?_padded (by decide) (by omega) (by omega) (by omega)
  · exact Scan.bounded?_padded (by decide) (by omega) (by omega) (by omega)
  · unfold Regular at h
    apply make?_eq
    · split at hs <;> split <;> omega
    · split at hs <;> split at hn <;> split <;> omega

theorem parse?_render {t : TimeOfDay} (h : t.Regular) : parse? t.render = some t := by
  obtain ⟨_, _, _, _, _, hhour, hcolon, hminute, hseconds, hmake⟩ :=
    render_parts h Scan.stops_nil nofun
  rw [List.append_nil] at hhour
  simp [parse?, hhour, hcolon, hminute, hseconds, hmake, Blank.skip_nil]

end TimeOfDay

namespace Day

/-- A year of four digits, or with a sign and of any number of digits, up to the text after it. -/
theorem year?_yearText {year : Int} (hrest : Scan.Stops rest) :
    year? ((yearText year).toList ++ rest) = some (year, rest) := by
  have hsigned : ∀ n, Scan.digits? ((Scan.padded 4 n).toList ++ rest).length
      ((Scan.padded 4 n).toList ++ rest) = some (n, rest) := by
    intro n
    rw [Scan.digits?_append (fun _ => Scan.isDigit_of_mem_padded) (Scan.padded_ne_nil _ _) (by simp)
      (.inr hrest), Scan.decimalValue_padded]
  unfold yearText
  split
  · obtain ⟨c, cs, hcs, hdigit⟩ := Scan.exists_padded_cons 4 year.toNat
    unfold year?
    rw [Scan.skip_padded]
    split
    · rename_i heq
      rw [hcs] at heq
      obtain rfl : c = '-' := (List.cons.inj heq).1
      cases hdigit
    · rename_i heq
      rw [hcs] at heq
      obtain rfl : c = '+' := (List.cons.inj heq).1
      cases hdigit
    · rw [Scan.digits?_padded (by decide) (by omega)]
      simp
      omega
  · rw [String.toList_append, List.append_assoc]
    split
    · have hsign : "-".toList = ['-'] := rfl
      rw [hsign, List.singleton_append, year?, Blank.skip_cons (by decide)]
      simp only [hsigned, Option.map_some]
      exact congrArg (fun y => some (y, rest)) (by omega)
    · have hsign : "+".toList = ['+'] := rfl
      rw [hsign, List.singleton_append, year?, Blank.skip_cons (by decide)]
      simp only [hsigned, Option.map_some]
      exact congrArg (fun y => some (y, rest)) (by omega)

theorem scan?_render {d : Day} (h : d.inRange) (rest : List Char) :
    scan? (d.render.toList ++ rest) = some (d, rest) := by
  obtain ⟨-, hmonth, -, hday⟩ := d.civil_bounds
  have hmonthLength : daysInMonth d.civil.year d.civil.month ≤ 31 := by
    unfold daysInMonth
    split <;> split <;> omega
  have hdash : Blank.isBlank '-' = false := by decide
  have hrender : d.render.toList ++ rest = (yearText d.civil.year).toList ++
      '-' :: ((Scan.padded 2 d.civil.month).toList ++
        '-' :: ((Scan.padded 2 d.civil.day).toList ++ rest)) := by
    have hmark : "-".toList = ['-'] := rfl
    simp only [render, String.toList_append, hmark, List.append_assoc, List.cons_append,
      List.nil_append]
  have hstops : ∀ cs, Scan.Stops ('-' :: cs) := by
    rintro cs _ ⟨⟩
    rfl
  rw [hrender, scan?, year?_yearText (hstops _)]
  simp [Scan.mark?_cons hdash, Scan.number?_padded (by decide : 0 < 2)
    (by omega : d.civil.month < 10 ^ 2), Scan.number?_padded (by decide : 0 < 2)
    (by omega : d.civil.day < 10 ^ 2), ofCivil?_civil h]

theorem parse?_render {d : Day} (h : d.inRange) : parse? d.render = some d := by
  have hscan := scan?_render h []
  rw [List.append_nil] at hscan
  simp [parse?, hscan, Blank.skip_nil]

end Day

namespace Instant

theorem shift?_zero {day : Day} (h : day.inRange) (time : TimeOfDay) :
    shift? day time 0 = some ⟨day, time⟩ := by
  have hseconds : day.number * 86400 + time.minute * 60 + time.second - 0 = seconds ⟨day, time⟩ :=
    Int.sub_zero _
  rw [shift?, hseconds, ofSeconds?_seconds, if_pos h]
  rfl

theorem parse?_render {t : Instant} (hday : t.day.inRange) (htime : t.time.Regular) :
    parse? t.render = some t := by
  have hrender : t.render.toList = t.day.render.toList ++ 'T' :: (t.time.render.toList ++ ['Z']) := by
    have hseparator : "T".toList = ['T'] := rfl
    have hzone : "Z".toList = ['Z'] := rfl
    simp only [render, String.toList_append, hseparator, hzone, List.append_assoc,
      List.cons_append, List.nil_append]
  have hstops : Scan.Stops ['Z'] := by
    rintro _ ⟨⟩
    rfl
  obtain ⟨_, _, _, _, _, hhour, hcolon, hminute, hseconds, hmake⟩ :=
    TimeOfDay.render_parts htime hstops nofun
  have hoffset : offset? (Blank.skip ['Z']) = some (0, []) := by decide
  rw [parse?, hrender, Day.scan?_render hday]
  simp [hhour, hcolon, hminute, hseconds, hmake, hoffset, Blank.skip_nil, shift?_zero hday]

end Instant

end FleetSizing
