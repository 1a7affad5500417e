import FleetSizing.Configuration.Yaml.Cursor

/-! Tags, anchors and directives of a YAML text. -/
namespace FleetSizing.Yaml

/-- A tag by a handle, which stands for the start of its name, and the rest. -/
structure Tag where
  handle : String
  suffix : String
  deriving DecidableEq, Repr

/-- What a line that starts with a percent sign says. -/
inductive Directive where
  | version
  | tag (handle start : String)
  deriving DecidableEq, Repr

/-- Characters of names on the web. -/
def isUri (c : Char) : Bool := c.isAlphanum || "-#;/?:@&=+$,_.!~*'()[]%".toList.contains c

def isTagPart (c : Char) : Bool := isUri c && !isFlow c && c != '!'

/-- A byte in two hexadecimal digits after a percent sign. -/
def byte? (c : Cursor) : Option (Nat × Cursor) :=
  if c.head = '%' ∧ 3 ≤ c.rest.length then (naturalIn? 16 [c.peek 1, c.peek 2]).map fun n => (n, c.pass 3)
  else none

/-- How many bytes follow a first one. -/
def following? (byte : Nat) : Option Nat :=
  if byte < 0x80 then some 0
  else if byte / 0x20 = 6 then some 1
  else if byte / 0x10 = 14 then some 2
  else if byte / 8 = 30 then some 3
  else none

def bytesFrom? : Nat → Nat → Cursor → Option (Nat × Cursor)
  | 0, code, c => some (code, c)
  | n + 1, code, c => do
    let (byte, c) ← byte? c
    if byte / 0x40 = 2 then bytesFrom? n (code * 256 + byte) c else none

/-- A character in bytes, whose values are put together as they are. -/
def bytes? (c : Cursor) : Option (Char × Cursor) := do
  let (first, c) ← byte? c
  let (code, c) ← bytesFrom? (← following? first) first c
  if h : code.isValidChar then some (Char.ofNatAux code h, c) else none

/-- Characters that satisfy a condition, some of which may stand as bytes. -/
def uriFrom? (p : Char → Bool) : Nat → Text → Cursor → Option (String × Cursor)
  | 0, _, _ => none
  | fuel + 1, acc, c =>
    if !p c.head then some (String.ofList acc.reverse, c)
    else if c.head = '%' then do
      let (x, c) ← bytes? c
      uriFrom? p fuel (x :: acc) c
    else uriFrom? p fuel (c.head :: acc) (c.pass 1)

def uri? (p : Char → Bool) (c : Cursor) : Option (String × Cursor) :=
  uriFrom? p (c.rest.length + 1) [] c

/-- An exclamation mark, a word, and another exclamation mark or none. -/
def handle? (c : Cursor) : Option (String × Cursor) :=
  if c.head ≠ '!' then none
  else
    let n := (c.pass 1).run isWord + 1
    let n := if c.peek n == '!' then n + 1 else n
    some (String.ofList (c.rest.take n), c.pass n)

/-- A handle that stands for something else. -/
def isHandle (s : String) : Bool := 2 ≤ s.length && s.endsWith "!"

/-- A tag: in angle brackets, by a handle, or local to the document. -/
def tag? (inFlow : Bool) (c : Cursor) : Option (Tag × Cursor) := do
  let (t, c) ←
    if c.peek 1 = '<' then do
      let (s, c) ← uri? isUri (c.pass 2)
      if c.head = '>' then some ((⟨"", s⟩ : Tag), c.pass 1) else none
    else do
      let (handle, c) ← handle? c
      let (s, c) ← uri? isTagPart c
      if isHandle handle then (if s.isEmpty then none else some (⟨handle, s⟩, c))
      else
        let suffix := String.ofList (handle.toList.drop 1) ++ s
        some (if suffix.isEmpty then ⟨"", "!"⟩ else ⟨"!", suffix⟩, c)
  if isBlankOrEnd c.head ∨ (inFlow ∧ isFlow c.head) then return (t, c) else none

/-- The name after the mark of an anchor or of an alias. -/
def anchor? (c : Cursor) : Option (String × Cursor) :=
  let c := c.pass 1
  let n := c.run fun x => !(isBlankOrEnd x || isFlow x || x == '\ufeff')
  if n = 0 then none else some (String.ofList (c.rest.take n), c.pass n)

def passBlanks (c : Cursor) : Cursor := c.passBlanks (c.run isBlank)

/-- Up to nine digits. -/
def versionNumber? (c : Cursor) : Option Cursor :=
  let n := c.run Char.isDigit
  if n = 0 ∨ 9 < n then none else some (c.pass n)

def version? (c : Cursor) : Option Cursor := do
  let c ← versionNumber? (passBlanks c)
  if c.head = '.' then versionNumber? (c.pass 1) else none

/-- A handle and what it stands for. -/
def tagDirective? (c : Cursor) : Option (Directive × Cursor) := do
  let (handle, c) ← handle? (passBlanks c)
  let c := passBlanks c
  let allowed (x : Char) := x == '!' || isTagPart x
  if (handle ≠ "!" ∧ ¬ isHandle handle) ∨ ¬ allowed c.head then none
  else
    let (start, c) ← if c.head = '!' then (uri? isUri (c.pass 1)).map fun (s, c) => ("!" ++ s, c)
      else uri? isUri c
    if isBlankOrEnd c.head then return (.tag handle start, c) else none

/-- A directive with the rest of its line; one that is not known counts as an empty tag. -/
def directive? (c : Cursor) : Option (Directive × Cursor) := do
  let c := c.pass 1
  let n := c.run isWord
  let name := String.ofList (c.rest.take n)
  let c := c.pass n
  if n = 0 ∨ ¬ isBlankOrEnd c.head then none
  else
    let (d, c) ← match name with
      | "YAML" => (version? c).map fun c => (Directive.version, c)
      | "TAG" => tagDirective? c
      | _ => some (Directive.tag "" "", c.passLine)
    let (_, c) ← c.passGap? true
    if isBreakOrEnd c.head then return (d, c.passBreak) else none

end FleetSizing.Yaml
