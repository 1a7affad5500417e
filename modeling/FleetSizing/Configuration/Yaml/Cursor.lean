import FleetSizing.Configuration.Settings

/-! A place in a YAML text, with its line and column. -/
namespace FleetSizing.Yaml

abbrev Text := Configuration.Text

/-- The text ends here, at a null character or after its last. -/
def isEnd (c : Char) : Bool := c == '\x00'

def isBreak (c : Char) : Bool := c == '\n' || c == '\r'

def isBreakOrEnd (c : Char) : Bool := isBreak c || isEnd c

def isBlank (c : Char) : Bool := c == ' ' || c == '\t'

def isBlankOrEnd (c : Char) : Bool := isBlank c || isBreakOrEnd c

/-- Marks of flow collections. -/
def isFlow (c : Char) : Bool := c == ',' || c == '[' || c == ']' || c == '\x7b' || c == '\x7d'

/-- Characters of words in directives and tags. -/
def isWord (c : Char) : Bool := c.isAlphanum || c == '_' || c == '-'

structure Cursor where
  rest : Text
  index : Nat := 0
  line : Nat := 0
  column : Nat := 0
  /-- Nothing but blanks stands before this place on its line. -/
  isLeading : Bool := true

namespace Cursor

/-- The character some places ahead. -/
def peek (c : Cursor) (ahead : Nat) : Char := (c.rest.drop ahead).headD '\x00'

def head (c : Cursor) : Char := c.peek 0

/-- Passes blanks. -/
def passBlanks (c : Cursor) (n : Nat) : Cursor :=
  { c with rest := c.rest.drop n, index := c.index + n, column := c.column + n }

/-- Passes characters some of which are no blanks. -/
def pass (c : Cursor) (n : Nat) : Cursor :=
  if n = 0 then c else { c.passBlanks n with isLeading := false }

/-- Passes a line break, if there is one. -/
def passBreak (c : Cursor) : Cursor :=
  let n := if c.head == '\r' && c.peek 1 == '\n' then 2 else if isBreak c.head then 1 else 0
  if n = 0 then c
  else
    { rest := c.rest.drop n, index := c.index + n, line := c.line + 1, column := 0, isLeading := true }

/-- How many characters in a row satisfy a condition. -/
def run (c : Cursor) (p : Char → Bool) : Nat := (c.rest.takeWhile p).length

/-- Passes all up to the end of the line. -/
def passLine (c : Cursor) : Cursor := c.pass (c.run (!isBreakOrEnd ·))

/-- Blanks that have been passed. -/
structure Gap where
  hasTab : Bool
  hasSpace : Bool

/-- Blanks and a comment up to the end of the line; a comment needs a blank before it. -/
def passGap? (c : Cursor) (tabs : Bool) : Option (Gap × Cursor) :=
  let blanks := c.rest.takeWhile fun x => x == ' ' || (tabs && x == '\t')
  let gap : Gap := ⟨blanks.contains '\t', blanks.contains ' '⟩
  let after := c.passBlanks blanks.length
  if after.head != '#' then some (gap, after)
  else if blanks.isEmpty then none
  else some (gap, after.passLine)

/-- Three of a character, and the end of the word. -/
def isMark (c : Cursor) (x : Char) : Bool :=
  c.peek 0 == x && c.peek 1 == x && c.peek 2 == x && isBlankOrEnd (c.peek 3)

/-- A mark that starts or ends a document. -/
def isDocumentMark (c : Cursor) : Bool := c.column == 0 && (c.isMark '-' || c.isMark '.')

end Cursor

end FleetSizing.Yaml
