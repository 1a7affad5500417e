import FleetSizing.Configuration.Items
import FleetSizing.Text.Nearest

/-! Reading JSON5: JSON with comments, bare names, single quotes and commas that may trail. -/
namespace FleetSizing.Json5

open FleetSizing.Configuration

abbrev Text := Configuration.Text

def isLineEnd (c : Char) : Bool :=
  c == '\n' || c == '\r' || c.toNat == 0x2028 || c.toNat == 0x2029

def isBlank (c : Char) : Bool :=
  c == '\t' || c.toNat == 0xB || c.toNat == 0xC || c.toNat == 0xFEFF || isLineEnd c ||
    (Unicode.ofCategory "Zs").contains c.toNat

/-- The text after a comment between slashes and stars. -/
def afterComment? : Text → Option Text
  | [] => none
  | '*' :: '/' :: r => some r
  | _ :: r => afterComment? r

/-- Blanks and comments. -/
def skipFrom? : Nat → Text → Option Text
  | 0, _ => none
  | fuel + 1, cs =>
    match cs.dropWhile isBlank with
    | '/' :: '/' :: r => skipFrom? fuel (r.dropWhile (!isLineEnd ·))
    | '/' :: '*' :: r => do skipFrom? fuel (← afterComment? r)
    | r => some r

def skip? (cs : Text) : Option Text := skipFrom? (cs.length + 1) cs

/-- A code point in four digits, or in two such groups that form a surrogate pair. -/
def codePoint? (cs : Text) : Option (Char × Text) := do
  let unit? (cs : Text) : Option Nat := if cs.length < 4 then none else naturalIn? 16 (cs.take 4)
  let high ← unit? cs
  let r := cs.drop 4
  if h : high.isValidChar then some (Char.ofNatAux high h, r)
  else match r with
    | '\\' :: 'u' :: r =>
      let low ← unit? r
      if high < 0xDC00 ∧ 0xDC00 ≤ low ∧ low < 0xE000 then
        return (Char.ofNat (0x10000 + (high - 0xD800) * 0x400 + (low - 0xDC00)), r.drop 4)
      else none
    | _ => none

/-- What a backslash and the text after it stand for; nothing at the end of a line. -/
def escape? : Text → Option (Option Char × Text)
  | 'b' :: r => some (some '\x08', r)
  | 'f' :: r => some (some '\x0c', r)
  | 'n' :: r => some (some '\n', r)
  | 'r' :: r => some (some '\r', r)
  | 't' :: r => some (some '\t', r)
  | 'v' :: r => some (some '\x0b', r)
  | '0' :: r => some (some '\x00', r)
  | 'x' :: a :: b :: r => (naturalIn? 16 [a, b]).map fun n => (some (Char.ofNat n), r)
  | 'x' :: _ => none
  | 'u' :: r => (codePoint? r).map fun (c, r) => (some c, r)
  | '\r' :: '\n' :: r => some (none, r)
  | c :: r => if c.isDigit then none else if isLineEnd c then some (none, r) else some (some c, r)
  | [] => none

/-- Text up to a quote; what has been read comes in reverse. -/
def quotedFrom? (quote : Char) : Nat → Text → Text → Option (String × Text)
  | 0, _, _ => none
  | fuel + 1, acc, cs =>
    match cs with
    | [] => none
    | c :: r =>
      if c = quote then some (String.ofList acc.reverse, r)
      else if c = '\\' then do
        let (c?, r) ← escape? r
        quotedFrom? quote fuel (c?.toList ++ acc) r
      else if isLineEnd c then none
      else quotedFrom? quote fuel (c :: acc) r

def text? : Text → Option (String × Text)
  | '"' :: r => quotedFrom? '"' (r.length + 1) [] r
  | '\'' :: r => quotedFrom? '\'' (r.length + 1) [] r
  | _ => none

def nameStarts : CodeSet := Unicode.letters.union ⟨[(0x24, 0x24), (0x5F, 0x5F)]⟩

/-- Characters of a name after its first. -/
def nameParts : CodeSet :=
  ((nameStarts.union (Unicode.ofCategories ["Mn", "Nd", "Pc"])).union
    (Unicode.property "Diacritic")).union ⟨[(0x200C, 0x200D)]⟩

/-- A bare name, in which escapes of code points may stand; what has been read comes in reverse. -/
def nameFrom? : Nat → Text → Text → Option (String × Text)
  | 0, _, _ => none
  | fuel + 1, acc, cs =>
    let allowed := if acc.isEmpty then nameStarts else nameParts
    match cs with
    | '\\' :: 'u' :: r => do
      let (c, r) ← codePoint? r
      nameFrom? fuel (c :: acc) r
    | c :: r =>
      if allowed.contains c.toNat then nameFrom? fuel (c :: acc) r
      else if acc.isEmpty then none
      else some (String.ofList acc.reverse, c :: r)
    | [] => if acc.isEmpty then none else some (String.ofList acc.reverse, [])

/-- Up to the end of a number in decimal digits, which may start or end with its point. -/
def decimal (cs : Text) : Text :=
  let digits (cs : Text) : Text := cs.takeWhile Char.isDigit
  let whole := if cs.head? = some '0' then ['0'] else digits cs
  let fraction := match cs.drop whole.length with
    | '.' :: r => '.' :: digits r
    | _ => []
  let mantissa := whole ++ fraction
  let exponent := match cs.drop mantissa.length with
    | e :: sign :: r =>
      let mark := if sign = '+' ∨ sign = '-' then [e, sign] else [e]
      let power := digits (if mark.length = 2 then r else sign :: r)
      if (e = 'e' ∨ e = 'E') ∧ ¬ power.isEmpty then mark ++ power else []
    | _ => []
  mantissa ++ exponent

/-- An integer stays within a signed word, hexadecimal digits within half an unsigned one. Only
decimal digits and a minus sign before infinity and before what is no number are read. -/
def number? (cs : Text) : Option (Json Float × Text) :=
  let (sign, body) := match cs with
    | '-' :: r => (['-'], r)
    | '+' :: r => (['+'], r)
    | r => ([], r)
  let hex? : Option (Text × Text) := match body with
    | '0' :: x :: r =>
      let ds := r.takeWhile fun c => (hexDigit? c).isSome
      if (x = 'x' ∨ x = 'X') ∧ ¬ ds.isEmpty then some (ds, r.drop ds.length) else none
    | _ => none
  let infinity := "Infinity".toList
  let nan := "NaN".toList
  match hex? with
  | some (ds, r) => do
    let n ← naturalIn? 16 ds
    if sign.isEmpty ∧ n < pow2 32 then return (.int n, r) else none
  | none =>
    if infinity.isPrefixOf body ∧ sign ≠ ['+'] then
      some (.real (if sign = ['-'] then -1.0 / 0.0 else 1.0 / 0.0), body.drop infinity.length)
    else if nan.isPrefixOf body ∧ sign ≠ ['+'] then some (.real (0.0 / 0.0), body.drop nan.length)
    else
      let digits := decimal body
      let r := body.drop digits.length
      if digits.all Char.isDigit then
        ((integerIn? 10 (sign ++ digits)).filter (isSigned 64)).map fun n => (.int n, r)
      else
        ((parseDouble? (sign ++ digits)).filter Float.isFinite).map fun x => (.real x, r)

def literal? (word : String) (j : Json Float) (cs : Text) : Option (Json Float × Text) :=
  if word.toList.isPrefixOf cs then some (j, cs.drop word.length) else none

/-- A name, a colon and a value. -/
def field? (value? : Text → Option (Json Float × Text)) (cs : Text) :
    Option ((String × Json Float) × Text) := do
  let (key, r) ← (text? cs).orElse fun _ => nameFrom? (cs.length + 1) [] cs
  match ← skip? r with
  | ':' :: r => do
    let (j, r) ← value? (← skip? r)
    return ((key, j), r)
  | _ => none

/-- A value, whose containers nest at most so deep. -/
def value? : Nat → Text → Option (Json Float × Text)
  | 0, _ => none
  | levels + 1, cs =>
    match cs with
    | '\x7b' :: r => (items? skip? '\x7d' (field? (value? levels)) (r.length + 1) r).map fun (fields, r) =>
        (tableOfFields fields, r)
    | '[' :: r => (items? skip? ']' (value? levels) (r.length + 1) r).map fun (xs, r) => (.list xs, r)
    | '"' :: _ | '\'' :: _ => (text? cs).map fun (s, r) => (.text s, r)
    | 'n' :: _ => literal? "null" .null cs
    | 't' :: _ => literal? "true" (.bool true) cs
    | 'f' :: _ => literal? "false" (.bool false) cs
    | _ => number? cs

/-- A document whose root is an object. -/
def read? (s : String) : Option Table := do
  let (j, r) ← value? (s.length + 1) (← skip? s.toList)
  match j, ← skip? r with
  | .object fields, [] => return fields
  | _, _ => none

end FleetSizing.Json5
