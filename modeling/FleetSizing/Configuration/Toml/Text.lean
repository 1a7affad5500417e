import FleetSizing.Configuration.Settings

/-! Texts, names and blanks of TOML. -/
namespace FleetSizing.Toml

abbrev Text := Configuration.Text

def isBlank (c : Char) : Bool := c == ' ' || c == '\t'

def skipBlank (cs : Text) : Text := cs.dropWhile isBlank

def isLineEnd (c : Char) : Bool := c == '\n' || c == '\r'

/-- Control characters other than the tabulator. -/
def isControl (c : Char) : Bool := (c.toNat < 32 && c != '\t') || c.toNat == 127

def newline? : Text → Option Text
  | '\n' :: r => some r
  | '\r' :: '\n' :: r => some r
  | _ => none

/-- Blanks and the ends of lines. -/
def skipLines : Text → Text
  | '\r' :: '\n' :: r => skipLines r
  | c :: r => if c == '\n' || isBlank c then skipLines r else c :: r
  | [] => []

/-- Leaves out a comment, in which a delete character may stand. -/
def skipComment? : Text → Option Text
  | '#' :: r =>
    let isBad (c : Char) := isControl c && c.toNat != 127
    if (r.takeWhile (!isLineEnd ·)).any isBad then none else some (r.dropWhile (!isLineEnd ·))
  | r => some r

/-- Blanks and a comment up to the end of the line, which may be the end of the text. -/
def lineEnd? (cs : Text) : Option Text := do
  match ← skipComment? (skipBlank cs) with
  | [] => some []
  | r => newline? r

def skipTriviaFrom? : Nat → Text → Option Text
  | 0, _ => none
  | fuel + 1, cs => do
    let r ← skipComment? (skipBlank cs)
    match newline? r with
    | some r => skipTriviaFrom? fuel r
    | none => some r

/-- Blanks, comments and line ends. -/
def skipTrivia? (cs : Text) : Option Text := skipTriviaFrom? (cs.length + 1) cs

/-- A code point in a fixed number of hexadecimal digits. -/
def codePoint? (width : Nat) (cs : Text) : Option (Char × Text) := do
  let ds := cs.take width
  let n ← naturalIn? 16 ds
  if ds.length < width then none
  else if h : n.isValidChar then some (Char.ofNatAux n h, cs.drop width)
  else none

/-- What follows a backslash. -/
def escape? : Text → Option (Char × Text)
  | 'b' :: r => some ('\x08', r)
  | 't' :: r => some ('\t', r)
  | 'n' :: r => some ('\n', r)
  | 'f' :: r => some ('\x0c', r)
  | 'r' :: r => some ('\r', r)
  | '"' :: r => some ('"', r)
  | '\\' :: r => some ('\\', r)
  | 'u' :: r => codePoint? 4 r
  | 'U' :: r => codePoint? 8 r
  | _ => none

/-- One line up to its closing quote, in reverse; only double quotes allow escapes. -/
def line? (quote : Char) : Nat → Text → Text → Option (Text × Text)
  | 0, _, _ => none
  | fuel + 1, acc, cs =>
    match cs with
    | [] => none
    | c :: r =>
      if c = quote then some (acc, r)
      else if c = '\\' ∧ quote = '"' then do
        let (c, r) ← escape? r
        line? quote fuel (c :: acc) r
      else if isControl c then none
      else line? quote fuel (c :: acc) r

/-- Several lines up to three closing quotes, before which up to two more may stand. A backslash at
the end of a line takes the blanks and line ends after it away. -/
def lines? (quote : Char) : Nat → Text → Text → Option (Text × Text)
  | 0, _, _ => none
  | fuel + 1, acc, cs =>
    let run := (cs.takeWhile (· == quote)).length
    if 3 ≤ run then
      let n := min run 5
      some (List.replicate (n - 3) quote ++ acc, cs.drop n)
    else match cs with
      | [] => none
      | '\r' :: '\n' :: r => lines? quote fuel ('\n' :: acc) r
      | c :: r =>
        if c = '\\' ∧ quote = '"' then
          match newline? (skipBlank r) with
          | some r => lines? quote fuel acc (skipLines r)
          | none => do
            let (c, r) ← escape? r
            lines? quote fuel (c :: acc) r
        else if isControl c ∧ c ≠ '\n' then none
        else lines? quote fuel (c :: acc) r

def finish (x : Text × Text) : String × Text := (String.ofList x.1.reverse, x.2)

/-- Text in quotes on one line. -/
def lineText? : Text → Option (String × Text)
  | '"' :: r => (line? '"' (r.length + 1) [] r).map finish
  | '\'' :: r => (line? '\'' (r.length + 1) [] r).map finish
  | _ => none

/-- Text in quotes of either kind. -/
def quoted? : Text → Option (String × Text)
  | '"' :: '"' :: '"' :: r => (lines? '"' (r.length + 1) [] ((newline? r).getD r)).map finish
  | '\'' :: '\'' :: '\'' :: r => (lines? '\'' (r.length + 1) [] ((newline? r).getD r)).map finish
  | r => lineText? r

def isBare (c : Char) : Bool := c.isAlphanum || c == '_' || c == '-'

/-- A bare name, or one in quotes on one line. -/
def name? (cs : Text) : Option (String × Text) :=
  let bare := cs.takeWhile isBare
  if bare.isEmpty then lineText? cs else some (String.ofList bare, cs.drop bare.length)

/-- How deep containers may nest, and how many names may be joined. -/
def depthLimit : Nat := 79

def namesFrom? : Nat → Text → Option (List String × Text)
  | 0, _ => none
  | fuel + 1, cs => do
    let (name, r) ← name? (skipBlank cs)
    match skipBlank r with
    | '.' :: r => do
      let (names, r) ← namesFrom? fuel r
      return (name :: names, r)
    | r => return ([name], r)

/-- Names joined by dots, with the blanks around them. -/
def names? (cs : Text) : Option (List String × Text) := namesFrom? depthLimit cs

end FleetSizing.Toml
