import FleetSizing.Calendar.Scan
import FleetSizing.Calendar.Weekday

/-! Days of the proleptic Gregorian calendar, counted from 1970-01-01. -/
namespace FleetSizing

structure Day where
  number : Int
  deriving DecidableEq, Repr, Inhabited

/-- A day by year, month and day of the month. -/
structure CivilDate where
  year : Int
  month : Nat
  day : Nat
  deriving DecidableEq, Repr

/-- Years a day can lie in. -/
def CivilDate.leastYear : Int := -262143

def CivilDate.greatestYear : Int := 262142

namespace Day

instance : Ord Day := ⟨fun a b => compare a.number b.number⟩

theorem eq_iff {a b : Day} : a = b ↔ a.number = b.number :=
  ⟨congrArg number, fun h => congrArg mk h⟩

/-- Years are counted from March, so that the leap day ends one. -/
def ofCivil (c : CivilDate) : Day :=
  let y := if c.month ≤ 2 then c.year - 1 else c.year
  let era := Int.fdiv y 400
  let yearOfEra := y - era * 400
  let fromMarch : Int := (c.month + 9) % 12
  let dayOfYear := (153 * fromMarch + 2) / 5 + c.day - 1
  let dayOfEra := yearOfEra * 365 + yearOfEra / 4 - yearOfEra / 100 + dayOfYear
  ⟨era * 146097 + dayOfEra - 719468⟩

def civil (d : Day) : CivilDate :=
  let z := d.number + 719468
  let era := Int.fdiv z 146097
  let dayOfEra := z - era * 146097
  let yearOfEra := (dayOfEra - dayOfEra / 1460 + dayOfEra / 36524 - dayOfEra / 146096) / 365
  let dayOfYear := dayOfEra - (365 * yearOfEra + yearOfEra / 4 - yearOfEra / 100)
  let fromMarch := (5 * dayOfYear + 2) / 153
  let day := dayOfYear - (153 * fromMarch + 2) / 5 + 1
  let month := if fromMarch < 10 then fromMarch + 3 else fromMarch - 9
  let year := yearOfEra + era * 400
  ⟨if month ≤ 2 then year + 1 else year, month.toNat, day.toNat⟩

def isLeap (year : Int) : Bool := year % 4 == 0 && (year % 100 != 0 || year % 400 == 0)

def daysInMonth (year : Int) (month : Nat) : Nat :=
  if month = 2 then (if isLeap year then 29 else 28)
  else if month = 4 ∨ month = 6 ∨ month = 9 ∨ month = 11 then 30 else 31

/-- The day of a date that exists, within the years that days lie in. -/
def ofCivil? (c : CivilDate) : Option Day :=
  if CivilDate.leastYear ≤ c.year ∧ c.year ≤ CivilDate.greatestYear ∧ 1 ≤ c.month ∧ c.month ≤ 12 ∧
      1 ≤ c.day ∧ c.day ≤ daysInMonth c.year c.month then
    some (ofCivil c)
  else none

def least : Day := ofCivil ⟨CivilDate.leastYear, 1, 1⟩

def greatest : Day := ofCivil ⟨CivilDate.greatestYear, 12, 31⟩

def inRange (d : Day) : Bool := least.number ≤ d.number && d.number ≤ greatest.number

def weekday (d : Day) : Weekday := Weekday.ofIndex ((d.number + 3) % 7).toNat

/-- The Thursday of the week, which starts on Monday. -/
def thursday (d : Day) : Day := ⟨7 * Int.fdiv (d.number + 3) 7⟩

/-- A week belongs to the year of its Thursday, and is numbered from one there. -/
def isoWeek (d : Day) : Int × Int :=
  let year := d.thursday.civil.year
  (year, (d.thursday.number - (ofCivil ⟨year, 1, 1⟩).number) / 7 + 1)

def yearText (year : Int) : String :=
  if 0 ≤ year ∧ year ≤ 9999 then Scan.padded 4 year.toNat
  else (if year < 0 then "-" else "+") ++ Scan.padded 4 year.natAbs

def render (d : Day) : String :=
  let c := d.civil
  yearText c.year ++ "-" ++ Scan.padded 2 c.month ++ "-" ++ Scan.padded 2 c.day

/-- Four digits at most, or a sign and any number of them. -/
def year? (cs : List Char) : Option (Int × List Char) :=
  match Blank.skip cs with
  | '-' :: r => (Scan.digits? r.length r).map fun (n, r) => (-(n : Int), r)
  | '+' :: r => (Scan.digits? r.length r).map fun (n, r) => (n, r)
  | r => (Scan.digits? 4 r).map fun (n, r) => (n, r)

/-- `year-month-day`, and the text that follows. -/
def scan? (cs : List Char) : Option (Day × List Char) := do
  let (y, r) ← year? cs
  let (m, r) ← Scan.number? 2 (← Scan.mark? '-' r)
  let (d, r) ← Scan.number? 2 (← Scan.mark? '-' r)
  return (← ofCivil? ⟨y, m, d⟩, r)

def parse? (text : String) : Option Day := do
  let (d, r) ← scan? text.toList
  if (Blank.skip r).isEmpty then some d else none

end Day

end FleetSizing
