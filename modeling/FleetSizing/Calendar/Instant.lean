import FleetSizing.Calendar.Day
import FleetSizing.Calendar.TimeOfDay

/-! Instants of universal time. -/
namespace FleetSizing

structure Instant where
  day : Day
  time : TimeOfDay
  deriving DecidableEq, Repr, Inhabited

namespace Instant

/-- The instant so many seconds after 1970-01-01; none outside the years that days lie in. -/
def ofSeconds? (s : Int) : Option Instant :=
  let day : Day := ⟨Int.fdiv s 86400⟩
  let rest := (Int.fmod s 86400).toNat
  if day.inRange then
    some ⟨day, { TimeOfDay.ofMinute (rest / 60) with
                 second := rest % 60, second_lt := Nat.mod_lt _ (Nat.succ_pos _) }⟩
  else none

/-- Whole seconds since 1970-01-01. -/
def seconds (t : Instant) : Int := t.day.number * 86400 + t.time.minute * 60 + t.time.second

def le (a b : Instant) : Bool :=
  a.seconds < b.seconds || (a.seconds == b.seconds && a.time.nano ≤ b.time.nano)

def render (t : Instant) : String := t.day.render ++ "T" ++ t.time.render ++ "Z"

/-- `UTC`, `Z` or a signed number of hours and minutes, in seconds. -/
def offset? (cs : List Char) : Option (Int × List Char) :=
  match cs with
  | 'Z' :: r | 'z' :: r => some (0, r)
  | u :: t :: c :: r =>
    if u.toLower = 'u' ∧ t.toLower = 't' ∧ c.toLower = 'c' then some (0, r)
    else do
      let sign ← if u = '+' then some 1 else if u = '-' ∨ u = '\u2212' then some (-1) else none
      if ¬ (t.isDigit ∧ c.isDigit) then none
      else match r.dropWhile (fun x => x == ':' || Blank.isBlank x) with
        | m :: n :: r =>
          if '0' ≤ m ∧ m ≤ '5' ∧ n.isDigit then
            some (sign * ((decimalValue [t, c] * 3600 + decimalValue [m, n] * 60 : Nat) : Int), r)
          else none
        | _ => none
  | _ => none

/-- The same instant on a clock that is `offset` seconds ahead. -/
def shift? (day : Day) (time : TimeOfDay) (offset : Int) : Option Instant := do
  let t ← ofSeconds? (day.number * 86400 + time.minute * 60 + time.second - offset)
  return { t with time := { t.time with nano := time.nano, nano_lt := time.nano_lt } }

/-- Date, a separator, time and offset. -/
def parse? (text : String) : Option Instant := do
  let (day, r) ← Day.scan? text.toList
  let r ← match r with
    | 'T' :: r | 't' :: r | ' ' :: r => some r
    | _ => none
  let (h, r) ← Scan.bounded? 2 0 23 r
  let (m, r) ← Scan.bounded? 2 0 59 (← Scan.mark? ':' r)
  let (s, n, r) ← TimeOfDay.seconds? r
  let time ← TimeOfDay.make? h m s n
  let (offset, r) ← offset? (Blank.skip r)
  if (Blank.skip r).isEmpty ∧ offset.natAbs < 86400 then shift? day time offset else none

end Instant

end FleetSizing
