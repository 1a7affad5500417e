import FleetSizing.Configuration.Items
import FleetSizing.Text.Nearest

/-! Reading RON: records and tuples in parentheses, maps in braces, lists in brackets. -/
namespace FleetSizing.Ron

open FleetSizing.Configuration

abbrev Text := Configuration.Text

def isBlank (c : Char) : Bool := c == ' ' || c == '\n' || c == '\t' || c == '\r'

/-- The text after a comment between slashes and stars, which may hold comments of its kind. -/
def afterComment? : Nat → Text → Option Text
  | depth, '/' :: '*' :: r => afterComment? (depth + 1) r
  | depth, '*' :: '/' :: r => if depth = 0 then some r else afterComment? (depth - 1) r
  | depth, _ :: r => afterComment? depth r
  | _, [] => none

/-- Blanks and comments. -/
def skipFrom? : Nat → Text → Option Text
  | 0, _ => none
  | fuel + 1, cs =>
    match cs.dropWhile isBlank with
    | '/' :: '/' :: r => skipFrom? fuel (r.dropWhile (· != '\n'))
    | '/' :: '*' :: r => do skipFrom? fuel (← afterComment? 0 r)
    | '/' :: _ => none
    | r => some r

def skip? (cs : Text) : Option Text := skipFrom? (cs.length + 1) cs

def isNameStart (c : Char) : Bool := c.isAlpha || c == '_'

def isNamePart (c : Char) : Bool := c.isAlphanum || c == '_'

/-- Characters of names that are marked as raw. -/
def isRawPart (c : Char) : Bool := isNamePart c || c == '.' || c == '+' || c == '-'

def run (p : Char → Bool) (cs : Text) : Text × Text := (cs.takeWhile p, cs.dropWhile p)

/-- A name, which is marked as raw if it holds more than letters, digits and underscores. -/
def name? : Text → Option (String × Text)
  | ['r'] => none
  | 'r' :: '"' :: _ => none
  | 'r' :: '#' :: r =>
    let (name, rest) := run isRawPart r
    if name.isEmpty then none else some (String.ofList name, rest)
  | cs =>
    let (name, rest) := run isNamePart cs
    if cs.head?.any isNameStart ∧ ¬ rest.head?.any isRawPart then some (String.ofList name, rest) else none

/-- The rest after a word that does not go on. -/
def word? (word : String) (cs : Text) : Option Text :=
  let w := word.toList
  let rest := cs.drop w.length
  if w.isPrefixOf cs ∧ ¬ rest.head?.any isNamePart then some rest else none

def charOf? (n : Nat) : Option Char := if h : n.isValidChar then some (Char.ofNatAux n h) else none

/-- What a backslash and the text after it stand for. -/
def escape? : Text → Option (Char × Text)
  | '\'' :: r => some ('\'', r)
  | '"' :: r => some ('"', r)
  | '\\' :: r => some ('\\', r)
  | 'n' :: r => some ('\n', r)
  | 'r' :: r => some ('\r', r)
  | 't' :: r => some ('\t', r)
  | '0' :: r => some ('\x00', r)
  | 'x' :: a :: b :: r => do return (← charOf? (← naturalIn? 16 [a, b]), r)
  | 'u' :: '\x7b' :: r => do
    let ds := (r.take 6).takeWhile (· != '\x7d')
    let c ← charOf? (← naturalIn? 16 ds)
    match r.drop ds.length with
    | '\x7d' :: r => return (c, r)
    | _ => none
  | _ => none

/-- Text up to a double quote; what has been read comes in reverse. -/
def quotedFrom? : Nat → Text → Text → Option (String × Text)
  | 0, _, _ => none
  | fuel + 1, acc, cs =>
    match cs with
    | [] => none
    | '"' :: r => some (String.ofList acc.reverse, r)
    | '\\' :: r => do
      let (c, r) ← escape? r
      quotedFrom? fuel (c :: acc) r
    | c :: r => quotedFrom? fuel (c :: acc) r

/-- Text up to a closing mark, taken as it stands. -/
def rawFrom? (close : Text) : Text → Text → Option (String × Text)
  | _, [] => none
  | acc, c :: r =>
    if close.isPrefixOf (c :: r) then some (String.ofList acc.reverse, (c :: r).drop close.length)
    else rawFrom? close (c :: acc) r

/-- Text in quotes, or as it stands between quotes with number signs around them. -/
def text? : Text → Option (String × Text)
  | '"' :: r => quotedFrom? (r.length + 1) [] r
  | 'r' :: r =>
    let (hashes, r) := run (· == '#') r
    match r with
    | '"' :: r => rawFrom? ('"' :: hashes) [] r
    | _ => none
  | _ => none

/-- A character after its single quote. -/
def char? : Text → Option (String × Text)
  | '\'' :: _ => none
  | '\\' :: r => do
    let (c, r) ← escape? r
    match r with
    | '\'' :: r => return (String.singleton c, r)
    | _ => none
  | c :: '\'' :: r => some (String.singleton c, r)
  | _ => none

def isIntegerPart (c : Char) : Bool := (hexDigit? c).isSome || c == '_'

def isFloatPart (c : Char) : Bool :=
  c.isDigit || c == 'e' || c == 'E' || c == '.' || c == '+' || c == '-' || c == '_'

/-- A number with a point, an exponent or many digits; it takes no underscores. -/
def float? (cs : Text) : Option (Json Float × Text) :=
  let special := ["inf", "+inf", "-inf", "NaN", "+NaN", "-NaN"].findSome? fun w =>
    (word? w cs).map fun r => (w.toList, r)
  let (digits, r) := special.getD (run isFloatPart cs)
  (parseDouble? digits).map fun x => (.real x, r)

/-- An integer to base 16, 8, 2 or 10, in which underscores do not count after the first digit. -/
def integer? (cs : Text) : Option (Json Float × Text) := do
  let (sign, body) := match cs with
    | '-' :: r => (some (-1 : Int), r)
    | '+' :: r => (some 1, r)
    | r => (none, r)
  let (base, body) := match body with
    | '0' :: 'x' :: r => (16, r)
    | '0' :: 'o' :: r => (8, r)
    | '0' :: 'b' :: r => (2, r)
    | r => (10, r)
  let (digits, r) := run isIntegerPart body
  if digits.head? = some '_' then none
  else
    let n ← naturalIn? base (digits.filter (· != '_'))
    let value : Int := sign.getD 1 * n
    if isSigned 64 value then return (.int value, r)
    else if sign.isNone ∧ n < pow2 64 then return (.real (nearestDouble n 1), r)
    else none

/-- Whether what follows a sign can only be a float. -/
def looksFloat (cs : Text) : Bool :=
  let body := if cs.head? = some '+' ∨ cs.head? = some '-' then cs.drop 1 else cs
  (body.takeWhile isIntegerPart).length < (body.takeWhile isFloatPart).length

def number? (cs : Text) : Option (Json Float × Text) :=
  if looksFloat cs then float? cs else (integer? cs).orElse fun _ => float? cs

/-- Extensions of the notation; one lets values stand for options that hold them. -/
def extensionNames : List String := ["unwrap_newtypes", "implicit_some", "unwrap_variant_newtypes"]

/-- The rest after a mark and what may follow it. -/
def mark? (mark : String) (cs : Text) : Option Text :=
  if mark.toList.isPrefixOf cs then skip? (cs.drop mark.length) else none

/-- Names of extensions up to the end of their list; a comma may follow the last. -/
def extensions? : Nat → Text → Option (List String × Text)
  | 0, _ => none
  | fuel + 1, cs => do
    let (name, r) ← name? cs
    if !extensionNames.contains name then none
    else match ← skip? r with
      | ',' :: r =>
        let r ← skip? r
        if r.head?.any isNamePart then
          let (names, r) ← extensions? fuel r
          return (name :: names, r)
        else return ([name], r)
      | r => return ([name], r)

/-- Attributes at the start, with the extensions they enable. -/
def attributes? : Nat → Text → Option (List String × Text)
  | 0, _ => none
  | fuel + 1, cs =>
    if cs.head? = some '#' then do
      let r ← mark? "(" (← mark? "enable" (← mark? "[" (← mark? "!" (← mark? "#" cs))))
      let (names, r) ← extensions? (r.length + 1) r
      let r ← mark? "]" (← mark? ")" r)
      let (more, r) ← attributes? fuel r
      return (names ++ more, r)
    else some ([], cs)

/-- Containers may nest as far as this allows: each takes one level, and each item in it another. -/
def levelLimit : Nat := 128

/-- A colon and a value after a key. -/
def afterKey? (value? : Text → Option (Json Float × Text)) (key : String) (cs : Text) :
    Option ((String × Json Float) × Text) := do
  let (j, r) ← value? (← mark? ":" (← skip? cs))
  return ((key, j), r)

/-- A name or a text, a colon and a value. -/
def field? (value? : Text → Option (Json Float × Text)) (cs : Text) :
    Option ((String × Json Float) × Text) := do
  let (name, r) ← name? cs
  afterKey? value? name r

def mapField? (value? : Text → Option (Json Float × Text)) (cs : Text) :
    Option ((String × Json Float) × Text) := do
  let (key, r) ← match cs with
    | '\'' :: r => char? r
    | r => text? r
  afterKey? value? key r

/-- Whether a name with a colon comes next. -/
def startsField (cs : Text) : Bool :=
  ((name? cs).bind fun (_, r) => skip? r).any fun r => r.head? == some ':'

/-- What parentheses hold: fields if it starts with one, or items of a tuple. -/
def record? (value? : Text → Option (Json Float × Text)) (cs : Text) : Option (Json Float × Text) := do
  let r ← skip? cs
  if startsField r then
    let (fields, r) ← items? skip? ')' (field? value?) (r.length + 1) r
    return (tableOfFields fields, r)
  else
    let (xs, r) ← items? skip? ')' value? (r.length + 1) r
    return (.list xs, r)

/-- A value without parts: a word, a number or a text. -/
def plain? (cs : Text) : Option (Json Float × Text) :=
  let words : List (String × Json Float) :=
    [("true", .bool true), ("false", .bool false), ("None", .null), ("inf", .real (1.0 / 0.0)),
     ("-inf", .real (-1.0 / 0.0)), ("NaN", .real (0.0 / 0.0))]
  let found := words.findSome? fun (w, j) => (word? w cs).map fun r => (j, r)
  found.orElse fun _ =>
    match cs with
    | '\'' :: r => (char? r).map fun (s, r) => (.text s, r)
    | '"' :: _ | 'r' :: _ => (text? cs).map fun (s, r) => (.text s, r)
    | '.' :: _ => float? cs
    | c :: _ => if c.isDigit ∨ c = '+' ∨ c = '-' then number? cs else none
    | [] => none

/-- A value. What is in an option counts as the value, a name alone as null. -/
def value? (implicitSome : Bool) : Nat → Text → Option (Json Float × Text)
  | levels, cs =>
    let item? : Text → Option (Json Float × Text) := match levels with
      | levels + 2 => value? implicitSome levels
      | _ => fun _ => none
    let inside? : Text → Option (Json Float × Text) := match levels with
      | levels + 1 => value? implicitSome levels
      | 0 => fun _ => none
    match word? "Some" cs with
    | some r => do
      match ← skip? r with
      | '(' :: r =>
        let (j, r) ← inside? (← skip? r)
        let r ← skip? r
        let r ← if r.head? = some ',' then skip? (r.drop 1) else some r
        if r.head? = some ')' then return (j, r.drop 1) else none
      | r => if implicitSome then inside? r else none
    | none =>
      match plain? cs with
      | some found => some found
      | none =>
        match name? cs, cs with
        | some (_, r), _ => do
          match ← skip? r with
          | '(' :: r => if levels = 0 then none else record? item? r
          | r => return (.null, r)
        | none, '(' :: ')' :: r => some (.null, r)
        | none, '(' :: r => if levels = 0 then none else record? item? r
        | none, '[' :: r =>
          if levels = 0 then none
          else (items? skip? ']' item? (r.length + 1) r).map fun (xs, r) => (.list xs, r)
        | none, '\x7b' :: r =>
          if levels = 0 then none
          else (items? skip? '\x7d' (mapField? item?) (r.length + 1) r).map fun (fields, r) =>
            (tableOfFields fields, r)
        | _, _ => none

/-- A document whose root is a record or a map. -/
def read? (s : String) : Option Table := do
  let cs ← skip? s.toList
  let (extensions, r) ← attributes? (cs.length + 1) cs
  let (j, r) ← value? (extensions.contains "implicit_some") levelLimit r
  match j, ← skip? r with
  | .object fields, [] => return fields
  | _, _ => none

end FleetSizing.Ron
