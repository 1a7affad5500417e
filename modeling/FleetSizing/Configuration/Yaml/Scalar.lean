import FleetSizing.Configuration.Yaml.Cursor

/-! Scalars of a YAML text: plain, in quotes, and in blocks of lines. -/
namespace FleetSizing.Yaml

/-- Breaks between lines that are joined: a single one turns into a space, of several all but the
first stay. -/
def folded (emptyLines : Nat) : Text :=
  if emptyLines = 0 then [' '] else List.replicate emptyLines '\n'

/-- A code point in hexadecimal digits, and the place after them. -/
def codePoint? (width : Nat) (c : Cursor) : Option (Char × Cursor) := do
  let ds := c.rest.take width
  let n ← naturalIn? 16 ds
  if ds.length < width then none
  else if h : n.isValidChar then some (Char.ofNatAux n h, c.pass width)
  else none

/-- What stands for a character after a backslash. -/
def escape? (c : Cursor) : Option (Char × Cursor) :=
  let is (x : Char) := some (x, c.pass 1)
  match c.head with
  | '0' => is '\x00'
  | 'a' => is '\x07'
  | 'b' => is '\x08'
  | 't' | '\t' => is '\t'
  | 'n' => is '\n'
  | 'v' => is '\x0b'
  | 'f' => is '\x0c'
  | 'r' => is '\r'
  | 'e' => is '\x1b'
  | ' ' => is ' '
  | '"' => is '"'
  | '/' => is '/'
  | '\\' => is '\\'
  | 'N' => is '\u0085'
  | '_' => is '\u00a0'
  | 'L' => is '\u2028'
  | 'P' => is '\u2029'
  | 'x' => codePoint? 2 (c.pass 1)
  | 'u' => codePoint? 4 (c.pass 1)
  | 'U' => codePoint? 8 (c.pass 1)
  | _ => none

/-- A word in quotes. -/
structure Word where
  /-- What has been read, in reverse. -/
  text : Text
  /-- A backslash hides the break that ends the word. -/
  isJoined : Bool

/-- Characters in quotes up to a blank, a break or the quote. -/
def word? (quote : Char) : Nat → Text → Cursor → Option (Word × Cursor)
  | 0, _, _ => none
  | fuel + 1, acc, c =>
    if isBlankOrEnd c.head then some (⟨acc, false⟩, c)
    else if quote == '\'' && c.head == '\'' && c.peek 1 == '\'' then
      word? quote fuel ('\'' :: acc) (c.pass 2)
    else if c.head == quote then some (⟨acc, false⟩, c)
    else if quote == '"' && c.head == '\\' then
      if isBreak (c.peek 1) then some (⟨acc, true⟩, (c.pass 1).passBreak)
      else do
        let (x, c) ← escape? (c.pass 1)
        word? quote fuel (x :: acc) c
    else word? quote fuel (c.head :: acc) (c.pass 1)

/-- Blanks and breaks between words. -/
structure Joint where
  /-- Blanks on the line of the word before, in reverse. -/
  blanks : Text := []
  isBroken : Bool := false
  emptyLines : Nat := 0

/-- Blanks and breaks in quotes. No tab may stand in the indentation of a line. -/
def quotedGap? (indent : Int) : Nat → Bool → Joint → Cursor → Option (Bool × Joint × Cursor)
  | 0, _, _, _ => none
  | fuel + 1, isLeading, j, c =>
    if isBlank c.head then
      if ¬ isLeading then
        quotedGap? indent fuel false { j with blanks := c.head :: j.blanks } (c.passBlanks 1)
      else if c.head == '\t' && c.column < indent then none
      else quotedGap? indent fuel true j (c.passBlanks 1)
    else if isBreak c.head then
      let j := if isLeading then { j with emptyLines := j.emptyLines + 1 } else ⟨[], true, 0⟩
      quotedGap? indent fuel true j c.passBreak
    else some (isLeading, j, c)

/-- Words in quotes up to the closing quote; what has been read comes in reverse. -/
def quotedFrom? (quote : Char) (indent : Int) : Nat → Text → Cursor → Option (Text × Cursor)
  | 0, _, _ => none
  | fuel + 1, acc, c =>
    if c.isDocumentMark ∨ isEnd c.head ∨ c.column < indent then none
    else do
      let (w, c) ← word? quote (c.rest.length + 1) acc c
      if c.head == quote then return (w.text, c.pass 1)
      else
        let (isLeading, j, c) ← quotedGap? indent (c.rest.length + 1) w.isJoined {} c
        let gap :=
          if ¬ isLeading then j.blanks
          else if j.isBroken then folded j.emptyLines
          else List.replicate j.emptyLines '\n'
        quotedFrom? quote indent fuel (gap ++ w.text) c

/-- Text in quotes. After it the line has to end, unless the text can be a key, which stands on one
line outside of flow collections, or stands in a flow collection. -/
def quoted? (quote : Char) (indent : Int) (inFlow : Bool) (c : Cursor) : Option (String × Cursor) := do
  let (s, after) ← quotedFrom? quote indent (c.rest.length + 1) [] (c.pass 1)
  let (_, after) ← after.passGap? true
  let next := after.head
  let mayFollow := isBreakOrEnd next || (next == ':' && (inFlow || c.line == after.line)) ||
    (inFlow && (next == ',' || next == ']' || next == '\x7d'))
  if mayFollow then some (String.ofList s.reverse, after) else none

/-- Whether the next character, which is no blank, can be part of a plain scalar. -/
def canBePlain (inFlow : Bool) (c : Cursor) : Bool :=
  if c.head == ':' then !(isBlankOrEnd (c.peek 1) || (inFlow && isFlow (c.peek 1)))
  else !(inFlow && isFlow c.head)

/-- How many characters of a plain scalar follow up to a blank. -/
def plainRun (inFlow : Bool) : Nat → Cursor → Nat
  | 0, _ => 0
  | fuel + 1, c =>
    if isBlankOrEnd c.head || !canBePlain inFlow c then 0 else plainRun inFlow fuel (c.pass 1) + 1

/-- Blanks and breaks in a plain scalar. A tab may stand in the indentation of an empty line only. -/
def plainGap? (indent : Int) : Nat → Joint → Cursor → Option (Joint × Cursor)
  | 0, _, _ => none
  | fuel + 1, j, c =>
    if isBlank c.head then
      if ¬ c.isLeading then plainGap? indent fuel { j with blanks := c.head :: j.blanks } (c.passBlanks 1)
      else if c.column < indent ∧ c.head = '\t' then do
        let (_, c) ← c.passGap? true
        if isBreakOrEnd c.head then plainGap? indent fuel j c else none
      else plainGap? indent fuel j (c.passBlanks 1)
    else if isBreak c.head then
      let j := if c.isLeading then { j with emptyLines := j.emptyLines + 1 }
        else { j with blanks := [], isBroken := true }
      plainGap? indent fuel j c.passBreak
    else some (j, c)

/-- Words of a plain scalar; what has been read comes in reverse. -/
def plainFrom? (inFlow : Bool) (indent : Int) : Nat → Text → Joint → Cursor → Option (Text × Cursor)
  | 0, _, _, _ => none
  | fuel + 1, acc, j, c =>
    if c.isDocumentMark ∨ c.head = '#' then some (acc, c)
    else if inFlow ∧ c.head = '-' ∧ isFlow (c.peek 1) then none
    else
      let n := plainRun inFlow c.rest.length c
      let gap :=
        if ¬ c.isLeading then j.blanks
        else if j.isBroken then folded j.emptyLines
        else List.replicate j.emptyLines '\n'
      let acc := if n = 0 then acc else (c.rest.take n).reverse ++ gap ++ acc
      let j := if n = 0 then j else {}
      let c := c.pass n
      if ¬ (isBlank c.head ∨ isBreak c.head) then some (acc, c)
      else do
        let (j, c) ← plainGap? indent (c.rest.length + 1) j c
        if ¬ inFlow ∧ c.column < indent then return (acc, c)
        else plainFrom? inFlow indent fuel acc j c

/-- A plain scalar inside of a block with the given indentation. -/
def plain? (inFlow : Bool) (indent : Int) (c : Cursor) : Option (String × Cursor) := do
  if inFlow ∧ c.column < indent + 1 then none
  else
    let (s, after) ← plainFrom? inFlow (indent + 1) (c.rest.length + 1) [] {} c
    return (String.ofList s.reverse, after)

/-- What becomes of the breaks at the end of a block of lines. -/
inductive Chomping where
  | clip | keep | strip
  deriving DecidableEq, Repr

def chomping? (c : Cursor) : Option Chomping × Cursor :=
  if c.head = '+' then (some .keep, c.pass 1)
  else if c.head = '-' then (some .strip, c.pass 1)
  else (none, c)

/-- The indentation that a digit gives; none is zero. -/
def increment? (c : Cursor) : Option (Nat × Cursor) :=
  if ¬ c.head.isDigit then some (0, c)
  else if c.head = '0' then none
  else some (c.head.toNat - 48, c.pass 1)

/-- Chomping and indentation in either order. -/
def blockHeader? (c : Cursor) : Option (Chomping × Nat × Cursor) := do
  let (before, c) := chomping? c
  let (n, c) ← increment? c
  let (after, c) := if before.isNone ∧ 0 < n then chomping? c else (none, c)
  return ((before.orElse fun _ => after).getD .clip, n, c)

/-- Passes empty lines, and the indentation of the line after them. -/
def passIndent (indent : Nat) : Nat → Nat → Cursor → Nat × Cursor
  | 0, emptyLines, c => (emptyLines, c)
  | fuel + 1, emptyLines, c =>
    let c := c.passBlanks (min (c.run (· == ' ')) (indent - c.column))
    if isBreak c.head then passIndent indent fuel (emptyLines + 1) c.passBreak else (emptyLines, c)

/-- Passes empty lines and all spaces before the first line, and finds the widest indentation. -/
def passFirstIndent : Nat → Nat → Nat → Cursor → Nat × Nat × Cursor
  | 0, widest, emptyLines, c => (widest, emptyLines, c)
  | fuel + 1, widest, emptyLines, c =>
    let c := c.passBlanks (c.run (· == ' '))
    let widest := max widest c.column
    if isBreak c.head then passFirstIndent fuel widest (emptyLines + 1) c.passBreak
    else (widest, emptyLines, c)

/-- Lines of a block as far as they have been read. -/
structure Lines where
  /-- In reverse. -/
  text : Text := []
  isBroken : Bool := false
  emptyLines : Nat := 0
  /-- The line before starts with a blank, so that its break stays. -/
  startsBlank : Bool := false

def breakText (l : Lines) : Text := if l.isBroken then ['\n'] else []

/-- Lines of a block with the given indentation. -/
def blockLines (isLiteral : Bool) (indent : Nat) : Nat → Lines → Cursor → Lines × Cursor
  | 0, l, c => (l, c)
  | fuel + 1, l, c =>
    if c.column ≠ indent ∨ isEnd c.head ∨ (indent = 0 ∧ c.isMark '.') then (l, c)
    else
      let isBlankLine := isBlank c.head
      let gap :=
        if !isLiteral && l.isBroken && !l.startsBlank && !isBlankLine then folded l.emptyLines
        else List.replicate l.emptyLines '\n' ++ breakText l
      let n := c.run (!isBreakOrEnd ·)
      let text := (c.rest.take n).reverse ++ gap ++ l.text
      let c := c.passBlanks n
      if isEnd c.head then (⟨text, false, 0, isBlankLine⟩, c)
      else
        let c := c.passBreak
        let (emptyLines, c) := passIndent indent (c.rest.length + 1) 0 c
        blockLines isLiteral indent fuel ⟨text, true, emptyLines, isBlankLine⟩ c

/-- A block of lines, after its mark, inside of a block with the given indentation. -/
def block? (isLiteral : Bool) (outer : Int) (start : Cursor) : Option (String × Cursor) := do
  let (chomping, increment, c) ← blockHeader? (start.pass 1)
  let (_, c) ← c.passGap? true
  if ¬ isBreakOrEnd c.head then none
  else
    let hasBreak := isBreak c.head
    let c := c.passBreak
    if c.head = '\t' then none
    else
      let fuel := c.rest.length + 1
      let (indent, emptyLines, c) :=
        if 0 < increment then
          let indent := (max 0 outer).toNat + increment
          (indent, passIndent indent fuel 0 c)
        else
          let (widest, emptyLines, c) := passFirstIndent fuel 0 0 c
          let least := max widest (outer + 1).toNat
          (if 0 < outer then max least 1 else least, emptyLines, c)
      if isEnd c.head then
        let text : Text := match chomping with
          | .strip => []
          | .clip => if hasBreak then ['\n'] else []
          | .keep => if hasBreak then List.replicate (max 1 emptyLines) '\n' else []
        return (String.ofList text, c)
      else if c.column < indent ∧ outer < c.column then none
      else
        let (l, c) := blockLines isLiteral indent fuel { emptyLines } c
        let last := if isEnd c.head ∧ max 1 indent ≤ c.column then ['\n'] else []
        let tail : Text := match chomping with
          | .strip => []
          | .clip => breakText l ++ last
          | .keep => breakText l ++ last ++ List.replicate l.emptyLines '\n'
        return (String.ofList (l.text.reverse ++ tail), c)

end FleetSizing.Yaml
