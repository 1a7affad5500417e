import FleetSizing.Configuration.Settings
import FleetSizing.Text.Blank

/-! Reading INI: names with texts, under headings in brackets. -/
namespace FleetSizing.Ini

abbrev Text := Configuration.Text

def isLineEnd (c : Char) : Bool := c == '\n' || c == '\r'

def trimEnd (cs : Text) : Text := (Blank.skip cs.reverse).reverse

def trim (cs : Text) : Text := trimEnd (Blank.skip cs)

/-- A code point in four characters, the first of which may be a plus sign. -/
def codePoint? (ds : Text) : Option Char := do
  let n ← naturalIn? 16 (if ds.head? = some '+' then ds.drop 1 else ds)
  if h : n.isValidChar then some (Char.ofNatAux n h) else none

/-- What a backslash and the text after it stand for; the end of a line goes with the character
after it. -/
def escape? : Text → Option (Text × Text)
  | '0' :: r => some (['\x00'], r)
  | 'a' :: r => some (['\x07'], r)
  | 'b' :: r => some (['\x08'], r)
  | 't' :: r => some (['\t'], r)
  | 'r' :: r => some (['\r'], r)
  | 'n' :: r => some (['\n'], r)
  | '\n' :: r => some ([], r.drop 1)
  | 'x' :: r =>
    if r.length < 4 then none else (codePoint? (r.take 4)).map fun c => ([c], r.drop 4)
  | c :: r => some ([c], r)
  | [] => none

/-- Text up to a mark, which stays; what has been read comes in reverse. -/
def before? (isMark : Char → Bool) (mayEnd : Bool) : Nat → Text → Text → Option (Text × Text)
  | 0, _, _ => none
  | fuel + 1, acc, cs =>
    match cs with
    | [] => if mayEnd then some (acc.reverse, []) else none
    | c :: r =>
      if isMark c then some (acc.reverse, c :: r)
      else if c = '\\' then do
        let (out, r) ← escape? r
        before? isMark mayEnd fuel (out ++ acc) r
      else before? isMark mayEnd fuel (c :: acc) r

/-- Text up to a mark that has to follow. -/
def upTo? (isMark : Char → Bool) (cs : Text) : Option (Text × Text) :=
  before? isMark false (cs.length + 1) [] cs

def untilLineEnd? (cs : Text) : Option (Text × Text) :=
  before? isLineEnd true (cs.length + 1) [] cs

/-- Parts in quotes, then the rest of the line, which loses its blanks at the end, and those at its
start if no part in quotes comes before it. -/
def parts? : Nat → Bool → Text → Option (Text × Text)
  | 0, _, _ => none
  | fuel + 1, isFirst, cs =>
    match cs with
    | [] => some ([], [])
    | c :: r =>
      if c = '"' ∨ c = '\'' then do
        let (part, r) ← upTo? (· == c) r
        let (tail, r) ← parts? fuel false (r.drop 1)
        return (part ++ tail, r)
      else do
        let (rest, r) ← untilLineEnd? (c :: r)
        return (if isFirst then trim rest else trimEnd rest, r)

/-- A value after its mark. -/
def value? (cs : Text) : Option (String × Text) := do
  let start := cs.dropWhile fun c => Blank.isBlank c && !isLineEnd c
  let (s, r) ← parts? (start.length + 1) true start
  return (String.ofList s, r)

/-- A document as far as it has been read. -/
structure Progress where
  settings : Configuration.Table := []
  heading : Option String := none
  /-- A name whose value is still to come. -/
  name : String := ""

namespace Progress

/-- Opens a heading, which starts without names. -/
def open_ (p : Progress) (heading : String) : Progress :=
  { p with settings := Json.assign heading (.object []) p.settings, heading := some heading }

def set (p : Progress) (value : String) : Progress :=
  let settings := match p.heading with
    | none => Json.assign p.name (.text value) p.settings
    | some h =>
      let inner := Configuration.tableOf ((Json.lookup h p.settings).getD .null)
      Json.assign h (.object (Json.assign p.name (.text value) inner)) p.settings
  { p with settings, name := "" }

end Progress

/-- Whether a rest of the text starts a line. -/
def startsLine (whole rest : Text) : Bool :=
  let n := whole.length - rest.length
  n == 0 || whole[n - 1]? == some '\n'

/-- Comments take whole lines. -/
def document? (whole : Text) : Nat → Progress → Text → Option Progress
  | 0, _, _ => none
  | fuel + 1, p, cs =>
    match Blank.skip cs with
    | [] => some p
    | c :: r =>
      if c = ';' ∨ c = '#' then
        if startsLine whole (c :: r) then document? whole fuel p (r.dropWhile (· != '\n')) else none
      else if c = '[' then do
        let (heading, r) ← upTo? (· == ']') r
        document? whole fuel (p.open_ (String.ofList (trim heading))) (r.drop 1)
      else if c = '=' ∨ c = ':' then
        if p.name.isEmpty then none
        else do
          let (value, r) ← value? r
          document? whole fuel (p.set value) r
      else do
        let (name, r) ← upTo? (fun c => c == '=' || c == ':') (c :: r)
        document? whole fuel { p with name := String.ofList (trim name) } r

def read? (s : String) : Option Configuration.Table :=
  let cs := s.toList
  (document? cs (2 * cs.length + 2) {} cs).map (·.settings)

end FleetSizing.Ini
