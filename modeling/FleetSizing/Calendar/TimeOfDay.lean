import FleetSizing.Calendar.Scan

/-! Times of day and their text. -/
namespace FleetSizing

def minutesPerDay : Nat := 1440

/-- A minute of the day, and a place within it; a leap second takes the second billion of
nanoseconds. -/
structure TimeOfDay where
  minute : Nat
  second : Nat := 0
  nano : Nat := 0
  minute_lt : minute < 1440 := by omega
  second_lt : second < 60 := by omega
  nano_lt : nano < 2000000000 := by omega
  deriving DecidableEq, Repr

namespace TimeOfDay

instance : Inhabited TimeOfDay := ⟨⟨0, 0, 0, by omega, by omega, by omega⟩⟩

/-- Wraps at midnight. -/
def ofMinute (n : Nat) : TimeOfDay :=
  { minute := n % 1440, minute_lt := Nat.mod_lt _ (by decide) }

def midnight : TimeOfDay := ofMinute 0

/-- Where a window over a whole day stops. -/
def dayEnd : TimeOfDay := ofMinute 1439

@[simp] theorem minute_ofMinute (n : Nat) : (ofMinute n).minute = n % 1440 := rfl

/-- A second that may be the leap second 60. -/
def make? (hour minute second nano : Nat) : Option TimeOfDay :=
  let s := if second = 60 then 59 else second
  let n := if second = 60 then nano + 1000000000 else nano
  if h : hour * 60 + minute < 1440 ∧ minute < 60 ∧ s < 60 ∧ n < 2000000000 then
    some ⟨hour * 60 + minute, s, n, h.1, h.2.2.1, h.2.2.2⟩
  else none

def render (t : TimeOfDay) : String :=
  let s := if t.nano < 1000000000 then t.second else t.second + 1
  let n := if t.nano < 1000000000 then t.nano else t.nano - 1000000000
  Scan.padded 2 (t.minute / 60) ++ ":" ++ Scan.padded 2 (t.minute % 60) ++ ":" ++ Scan.padded 2 s
    ++ Scan.fractionText n

/-- `:second` with an optional fraction. -/
def seconds? (cs : List Char) : Option (Nat × Nat × List Char) := do
  let (s, r) ← Scan.bounded? 2 0 60 (← Scan.mark? ':' cs)
  let (n, r) ← Scan.fraction? r
  return (s, n, r)

/-- `hour:minute`, seconds optional. -/
def parse? (text : String) : Option TimeOfDay := do
  let (h, r) ← Scan.bounded? 2 0 23 text.toList
  let (m, r) ← Scan.bounded? 2 0 59 (← Scan.mark? ':' r)
  let (s, n, r) := (seconds? r).getD (0, 0, r)
  if (Blank.skip r).isEmpty then make? h m s n else none

end TimeOfDay

end FleetSizing
