import FleetSizing.Calendar.Day
import FleetSizing.Configuration.Toml.Text
import FleetSizing.Text.Nearest

/-! Truth values, numbers, days and times of TOML. Days and times are read as text. -/
namespace FleetSizing.Toml

/-- Digits without the underscores that may stand between two of them. -/
def plain? (isDigit : Char → Bool) : Text → Option Text
  | [] => none
  | [c] => if isDigit c then some [c] else none
  | c :: '_' :: r => if isDigit c then (plain? isDigit r).map (c :: ·) else none
  | c :: r => if isDigit c then (plain? isDigit r).map (c :: ·) else none

/-- Decimal digits without a leading zero. -/
def whole? (cs : Text) : Option Text := do
  let ds ← plain? Char.isDigit cs
  if 1 < ds.length ∧ ds.head? = some '0' then none else some ds

def word? (n : Int) : Option (Json Float) :=
  if isSigned 64 n then some (.int n) else none

def integer? (negative : Bool) (cs : Text) : Option (Json Float) := do
  let n : Int := decimalValue (← whole? cs)
  word? (if negative then -n else n)

def digitsIn? (base : Nat) (cs : Text) : Option (Json Float) := do
  word? (← naturalIn? base (← plain? (fun c => (digitIn? base c).isSome) cs))

/-- An integer to base 16, 8 or 2. -/
def based? : Text → Option (Json Float)
  | '0' :: 'x' :: r => digitsIn? 16 r
  | '0' :: 'o' :: r => digitsIn? 8 r
  | '0' :: 'b' :: r => digitsIn? 2 r
  | _ => none

/-- The exponent after an `e`. -/
def exponent? : Text → Option Int
  | '-' :: r => do return -(decimalValue (← plain? Char.isDigit r) : Int)
  | '+' :: r => do return decimalValue (← plain? Char.isDigit r)
  | r => do return decimalValue (← plain? Char.isDigit r)

/-- A number with a point or an exponent, which does not grow beyond the largest double; below the
least one it becomes infinite. -/
def real? (negative : Bool) (cs : Text) : Option (Json Float) := do
  let isMark (c : Char) := c == 'e' || c == 'E'
  let mantissa := cs.takeWhile (!isMark ·)
  let e ← match cs.dropWhile (!isMark ·) with
    | [] => some 0
    | _ :: r => exponent? r
  let fraction ← match mantissa.dropWhile (· != '.') with
    | [] => some []
    | _ :: r => plain? Char.isDigit r
  let digits := (← whole? (mantissa.takeWhile (· != '.'))) ++ fraction
  let x := decimalDouble (decimalValue digits) (e - fraction.length)
  if negative then return .real (-x)
  else if x.isInf then none
  else return .real x

/-- `inf` and `nan`. -/
def special? (negative : Bool) (cs : Text) : Option (Json Float) :=
  if cs = ['i', 'n', 'f'] then some (.real (if negative then -1.0 / 0.0 else 1.0 / 0.0))
  else if cs = ['n', 'a', 'n'] then some (.real (0.0 / 0.0))
  else none

def number? (cs : Text) : Option (Json Float) :=
  let signed (negative : Bool) (r : Text) :=
    (integer? negative r).orElse fun _ => (real? negative r).orElse fun _ => special? negative r
  match cs with
  | '-' :: r => signed true r
  | '+' :: r => signed false r
  | r => (based? r).orElse fun _ => signed false r

def two? : Text → Option (Nat × Text)
  | a :: b :: r => if a.isDigit ∧ b.isDigit then some (decimalValue [a, b], r) else none
  | _ => none

def mark? (c : Char) : Text → Option Text
  | d :: r => if c = d then some r else none
  | [] => none

/-- A fraction of a second without the zeros it ends in; nine digits count. -/
def fraction? : Text → Option (String × Text)
  | '.' :: r =>
    let ds := r.takeWhile Char.isDigit
    let shown := ((ds.take 9).reverse.dropWhile (· == '0')).reverse
    if ds.isEmpty then none
    else some (if shown.isEmpty then "" else "." ++ String.ofList shown, r.drop ds.length)
  | r => some ("", r)

/-- `hour:minute:second` with an optional fraction, as text. -/
def time? (cs : Text) : Option (String × Text) := do
  let (h, r) ← two? cs
  let (m, r) ← two? (← mark? ':' r)
  let (s, r) ← two? (← mark? ':' r)
  let (fraction, r) ← fraction? r
  if 23 < h ∨ 59 < m ∨ 60 < s then none
  else
    let base := Scan.padded 2 h ++ ":" ++ Scan.padded 2 m ++ ":" ++ Scan.padded 2 s
    return (base ++ fraction, r)

/-- An offset from universal time, if one follows; no offset is negative zero. -/
def offset? : Text → Option String
  | [] => some ""
  | ['Z'] | ['z'] => some "Z"
  | sign :: r => do
    let (h, r) ← two? r
    let (m, r) ← two? (← mark? ':' r)
    let shown := if h = 0 ∧ m = 0 then '+' else sign
    if (sign = '+' ∨ sign = '-') ∧ h ≤ 23 ∧ m ≤ 59 ∧ r.isEmpty then
      some (String.singleton shown ++ Scan.padded 2 h ++ ":" ++ Scan.padded 2 m)
    else none

/-- `year-month-day` as text. -/
def date? : Text → Option (String × Text)
  | a :: b :: c :: d :: r => do
    if [a, b, c, d].all Char.isDigit then
      let (m, r) ← two? (← mark? '-' r)
      let (day, r) ← two? (← mark? '-' r)
      let shown ← Day.ofCivil? ⟨decimalValue [a, b, c, d], m, day⟩
      return (shown.render, r)
    else none
  | _ => none

/-- A date, a time, or both, as text. -/
def moment? (cs : Text) : Option (Json Float) :=
  match date? cs with
  | some (d, []) => some (.text d)
  | some (d, sep :: r) =>
    if sep = 'T' ∨ sep = 't' ∨ sep = ' ' then do
      let (t, r) ← time? r
      return .text (d ++ "T" ++ t ++ (← offset? r))
    else none
  | none =>
    match time? cs with
    | some (t, []) => some (.text t)
    | _ => none

def isToken (c : Char) : Bool := isBare c || c == '+' || c == '.' || c == ':'

/-- The characters of an unquoted value; one blank may part a date from a time. -/
def token (cs : Text) : Text :=
  let first := cs.takeWhile isToken
  match cs.drop first.length with
  | ' ' :: c :: r =>
    if (date? first).any (·.2.isEmpty) ∧ c.isDigit then first ++ ' ' :: (c :: r).takeWhile isToken
    else first
  | _ => first

/-- A value without quotes or brackets. -/
def scalar? (cs : Text) : Option (Json Float) :=
  if cs = ['t', 'r', 'u', 'e'] then some (.bool true)
  else if cs = ['f', 'a', 'l', 's', 'e'] then some (.bool false)
  else (number? cs).orElse fun _ => moment? cs

end FleetSizing.Toml
