import FleetSizing.Configuration.Yaml.Scalar
import FleetSizing.Configuration.Yaml.Tag

/-! Tokens of a YAML text. Blocks are found by their indentation, keys by the colon after them. -/
namespace FleetSizing.Yaml

inductive Token where
  | directive (d : Directive)
  | documentStart
  | documentEnd
  | sequenceStart
  | mappingStart
  | blockEnd
  | flowSequenceStart
  | flowSequenceEnd
  | flowMappingStart
  | flowMappingEnd
  | entry
  | comma
  | key
  | value
  | alias (name : String)
  | anchor (name : String)
  | tag (t : Tag)
  | scalar (isPlain : Bool) (s : String)
  deriving DecidableEq, Repr

/-- A place where a key may start, should a colon follow. -/
structure KeyStart where
  /-- Nothing but a key can stand there. -/
  isRequired : Bool
  /-- How many tokens come before it. -/
  position : Nat
  cursor : Cursor

structure Indent where
  /-- The indentation outside. -/
  outer : Int
  /-- A block is open, and not only room for one. -/
  isBlock : Bool

/-- A text as far as its tokens have been found. -/
structure Lexer where
  cursor : Cursor
  tokens : Array Token := #[]
  /-- The last token belongs to the node that follows, and starts its line. -/
  startsWithProperty : Bool := false
  /-- Whether a key may start here. -/
  allowsKey : Bool := true
  /-- Where the key of this level may have started. -/
  key? : Option KeyStart := none
  /-- The same for the flow collections around this place, from the inside out. -/
  outerKeys : List (Option KeyStart) := []
  indent : Int := -1
  indents : List Indent := []
  /-- Where a colon may follow its key without a blank. -/
  adjacentAt : Option Nat := none
  /-- A key in a flow collection belongs to a mapping in braces. -/
  hasFlowMapping : Bool := false
  /-- A mapping without braces is open in a flow sequence. -/
  hasImplicitMapping : Bool := false

namespace Lexer

variable (s : Lexer)

def inFlow : Bool := !s.outerKeys.isEmpty

def push (t : Token) : Lexer := { s with tokens := s.tokens.push t, startsWithProperty := false }

def insert (position : Nat) (t : Token) : Lexer :=
  { s with
    tokens := s.tokens.take position ++ #[t] ++ s.tokens.drop position, startsWithProperty := false }

/-- Opens a block at a column, if that is further in; its token goes where its first key starts. -/
def openBlock (column : Nat) (position? : Option Nat) (t : Token) : Lexer :=
  if s.inFlow then s
  else
    let s := match s.indents with
      | i :: rest =>
        if s.indent ≤ column ∧ ¬ i.isBlock then { s with indent := i.outer, indents := rest } else s
      | [] => s
    if (column : Int) ≤ s.indent then s
    else
      let s := { s with indent := column, indents := ⟨s.indent, true⟩ :: s.indents }
      match position? with
      | some p => s.insert p t
      | none => s.push t

def closeBlocksFrom (column : Int) : List Indent → Lexer → Lexer
  | [], s => s
  | i :: rest, s =>
    if s.indent ≤ column then s
    else
      let s := { s with indent := i.outer, indents := rest }
      closeBlocksFrom column rest (if i.isBlock then s.push .blockEnd else s)

/-- Closes the blocks that are further in than a column. -/
def closeBlocks (column : Int) : Lexer :=
  if s.inFlow then s else closeBlocksFrom column s.indents s

/-- What follows has to be one column further in than the block around it. -/
def indentOne : Lexer :=
  match s.indents with
  | i :: _ =>
    if ¬ s.inFlow ∧ i.isBlock then
      { s with indent := s.indent + 1, indents := ⟨s.indent, false⟩ :: s.indents }
    else s
  | [] => s

def unindentFrom : List Indent → Lexer → Lexer
  | [], s => s
  | i :: rest, s =>
    if i.isBlock then s else unindentFrom rest { s with indent := i.outer, indents := rest }

/-- Gives up room for blocks that none has taken. -/
def unindent : Lexer := unindentFrom s.indents s

/-- Notes that a key may start here. -/
def startKey : Lexer :=
  if ¬ s.allowsKey then s
  else
    let isRequired := !s.inFlow && s.indent == s.cursor.column && s.indents.head?.any (·.isBlock)
    { s with key? := some ⟨isRequired, s.tokens.size, s.cursor⟩ }

/-- No colon has followed what could have been a key. -/
def dropKey? : Option Lexer :=
  if s.key?.any (·.isRequired) then none else some { s with key? := none }

/-- Outside of flow collections a key stands on one line, and is not long. -/
def dropStaleKey? : Option Lexer :=
  let isStale (k : KeyStart) : Bool :=
    k.cursor.line < s.cursor.line || k.cursor.index + 1024 < s.cursor.index
  if ¬ s.inFlow ∧ s.key?.any isStale then s.dropKey? else some s

def moveTo (c : Cursor) : Lexer := { s with cursor := c }

/-- Passes blanks and a comment on this line. -/
def passGap? (tabs : Bool) : Option (Cursor.Gap × Lexer) :=
  (s.cursor.passGap? tabs).map fun (gap, c) => (gap, s.moveTo c)

def passBreak : Lexer :=
  { s with cursor := s.cursor.passBreak, allowsKey := s.allowsKey || !s.inFlow }

def skipFrom? : Nat → Lexer → Option Lexer
  | 0, _ => none
  | fuel + 1, s =>
    let c := s.cursor
    if c.head = '\t' ∧ ¬ s.indents.isEmpty ∧ c.isLeading ∧ c.column < s.indent then do
      let (_, s) ← s.passGap? true
      if isBreakOrEnd s.cursor.head then skipFrom? fuel s else none
    else if isBlank c.head then skipFrom? fuel (s.moveTo (c.passBlanks 1))
    else if isBreak c.head then skipFrom? fuel s.passBreak
    else if c.head = '#' then skipFrom? fuel (s.moveTo c.passLine)
    else some s

/-- Passes blanks, comments and breaks up to the next token. No tab may indent a block. -/
def skip? : Option Lexer := skipFrom? (s.cursor.rest.length + 1) s

def spacesFrom? : Nat → Bool → Lexer → Option Lexer
  | 0, _, _ => none
  | fuel + 1, hasBlank, s =>
    let c := s.cursor
    if c.head = ' ' then spacesFrom? fuel true (s.moveTo (c.passBlanks 1))
    else if isBreak c.head then spacesFrom? fuel true s.passBreak
    else if c.head = '#' then spacesFrom? fuel hasBlank (s.moveTo c.passLine)
    else if hasBlank then some s
    else none

/-- Passes spaces, comments and breaks, of which there has to be one. -/
def spaces? : Option Lexer := spacesFrom? (s.cursor.rest.length + 1) false s

def closeImplicitMapping : Lexer :=
  if s.hasImplicitMapping then
    { s.push .flowMappingEnd with hasImplicitMapping := false, hasFlowMapping := false }
  else s

/-- A line with a directive. -/
def directive? : Option Lexer := do
  let s ← (s.closeBlocks (-1)).dropKey?
  let (d, c) ← Yaml.directive? s.cursor
  return { s.push (.directive d) with cursor := c, allowsKey := false }

/-- Three dashes or dots. -/
def documentMark? (t : Token) : Option Lexer := do
  let s ← (s.closeBlocks (-1)).dropKey?
  return { s.push t with cursor := s.cursor.pass 3, allowsKey := false }

/-- Flow collections may nest at most this deep. -/
def flowLimit : Nat := 255

def flowStart? (t : Token) : Option Lexer := do
  let s := s.startKey.indentOne
  if flowLimit ≤ s.outerKeys.length then none
  else
    let s := { s with
      key? := none, outerKeys := s.key? :: s.outerKeys, allowsKey := true
      hasFlowMapping := s.hasFlowMapping || t == Token.flowMappingStart }
    let (_, s) ← (s.moveTo (s.cursor.pass 1)).passGap? true
    return s.push t

def flowEnd? (t : Token) : Option Lexer := do
  let s ← s.dropKey?
  let s := match s.outerKeys with
    | k :: rest => { s with key? := k, outerKeys := rest }
    | [] => s
  let s := { s with allowsKey := false }.closeImplicitMapping
  let (_, s) ← (s.moveTo (s.cursor.pass 1)).passGap? true
  let s := if s.inFlow then { s with adjacentAt := some s.cursor.index } else s
  return s.push t

def comma? : Option Lexer := do
  let s ← s.dropKey?
  let s := { s with allowsKey := true }.closeImplicitMapping
  let (_, s) ← (s.moveTo (s.cursor.pass 1)).passGap? true
  return s.push .comma

/-- A dash before an element of a block. -/
def dash? : Option Lexer := do
  let c := s.cursor
  if s.inFlow ∨ ¬ s.allowsKey ∨ (s.startsWithProperty ∧ c.column = 0 ∧ -1 < s.indent) then none
  else
    let s := (s.moveTo (c.pass 1)).openBlock c.column none .sequenceStart
    let (gap, s) ← s.passGap? true
    if gap.hasTab ∧ s.cursor.head = '-' ∧ isBlankOrEnd (s.cursor.peek 1) then none
    else
      let (_, s) ← s.passGap? false
      let s := if isBreak s.cursor.head ∨ isFlow s.cursor.head then s.indentOne else s
      let s ← s.dropKey?
      return { s.push .entry with allowsKey := true }

/-- A question mark before a key. -/
def explicitKey? : Option Lexer := do
  let c := s.cursor
  let s ← if s.inFlow then some { s with hasFlowMapping := true }
    else if ¬ s.allowsKey then none
    else some (s.openBlock c.column none .mappingStart)
  let s ← s.dropKey?
  let s := { s with allowsKey := !s.inFlow }
  let s ← (s.moveTo (c.pass 1)).spaces?
  if s.cursor.head = '\t' then none else return s.push .key

/-- A colon after a key. A tab alone may not part it from a word. -/
def value? : Option Lexer := do
  let start := s.cursor
  let isImplicit := s.inFlow && !s.hasFlowMapping
  let s := { s with hasImplicitMapping := isImplicit }.moveTo (start.pass 1)
  let s ← if s.cursor.head = '\t' then do
      let (gap, s) ← s.passGap? true
      if !gap.hasSpace && isWord s.cursor.head then none else some s
    else some s
  let s ← match s.key? with
    | some k =>
      let s := s.insert k.position .key
      if isImplicit ∧ k.cursor.line < start.line then none
      else
        let s := if isImplicit then s.insert k.position .flowMappingStart else s
        let s := (s.openBlock k.cursor.column (some k.position) .mappingStart).indentOne
        some { s with key? := none, allowsKey := false }
    | none =>
      let s := if isImplicit then s.push .flowMappingStart else s
      if s.inFlow then some { s.indentOne with allowsKey := false }
      else if ¬ s.allowsKey then none
      else some { (s.openBlock start.column none .mappingStart).indentOne with allowsKey := true }
  return s.push .value

/-- An alias, an anchor or a tag. -/
def property? (read? : Cursor → Option (Token × Cursor)) : Option Lexer := do
  let c := s.cursor
  let s := s.startKey
  let (t, after) ← read? c
  let belongs := match t with
    | .alias _ => false
    | _ => c.column == 0
  return { s.push t with cursor := after, allowsKey := false, startsWithProperty := belongs }

def quoted? (quote : Char) : Option Lexer := do
  let s := { s.startKey with allowsKey := false }
  let (text, c) ← Yaml.quoted? quote s.indent s.inFlow s.cursor
  let s ← (s.moveTo c).skip?
  return { s.push (.scalar false text) with adjacentAt := some s.cursor.index }

def plain? : Option Lexer := do
  let s := { s.startKey with allowsKey := false }.unindent
  let (text, c) ← Yaml.plain? s.inFlow s.indent s.cursor
  return { s.push (.scalar true text) with cursor := c, allowsKey := c.isLeading }

def block? (isLiteral : Bool) : Option Lexer := do
  let s := { s.startKey with allowsKey := true }.unindent
  let (text, c) ← Yaml.block? isLiteral s.indent s.cursor
  return (s.moveTo c).push (.scalar false text)

/-- Whether a colon here stands after a key. -/
def endsKey : Bool :=
  let next := s.cursor.peek 1
  isBlankOrEnd next || (s.inFlow && (isFlow next || s.adjacentAt == some s.cursor.index))

/-- The next token that starts neither a document nor a line of its own. -/
def content? : Option Lexer :=
  let c := s.cursor
  let isAlone := isBlankOrEnd (c.peek 1)
  match c.head with
  | '[' => s.flowStart? .flowSequenceStart
  | '\x7b' => s.flowStart? .flowMappingStart
  | ']' => s.flowEnd? .flowSequenceEnd
  | '\x7d' => s.flowEnd? .flowMappingEnd
  | ',' => s.comma?
  | '-' => if isAlone then s.dash? else s.plain?
  | '?' => if isAlone then s.explicitKey? else s.plain?
  | ':' => if s.endsKey then s.value? else s.plain?
  | '*' => s.property? fun c => (anchor? c).map fun (name, c) => (.alias name, c)
  | '&' => s.property? fun c => (anchor? c).map fun (name, c) => (.anchor name, c)
  | '!' => s.property? fun c => (tag? s.inFlow c).map fun (t, c) => (.tag t, c)
  | '|' => if s.inFlow then s.plain? else s.block? true
  | '>' => if s.inFlow then s.plain? else s.block? false
  | '\'' => s.quoted? '\''
  | '"' => s.quoted? '"'
  | '%' | '@' => none
  | x => if x.toNat = 0x60 then none else s.plain?

/-- Closes what is open at the end of the text. -/
def finish? : Option Lexer := do
  let s := if s.outerKeys.any (·.any (·.isRequired)) then none else s.dropKey?
  return (← s).closeBlocks (-1)

/-- All tokens up to the end of the text. -/
def tokensFrom? : Nat → Lexer → Option (Array Token)
  | 0, _ => none
  | fuel + 1, s => do
    let s ← (← s.skip?).dropStaleKey?
    let s := s.closeBlocks s.cursor.column
    let c := s.cursor
    if isEnd c.head then return (← s.finish?).tokens
    else if c.column = 0 ∧ c.head = '%' then tokensFrom? fuel (← s.directive?)
    else if c.column = 0 ∧ c.isMark '-' then tokensFrom? fuel (← s.documentMark? .documentStart)
    else if c.column = 0 ∧ c.isMark '.' then
      let (_, s) ← (← s.documentMark? .documentEnd).passGap? true
      if isBreakOrEnd s.cursor.head then tokensFrom? fuel s else none
    else if c.column < s.indent then none
    else tokensFrom? fuel (← s.content?)

end Lexer

def tokens? (s : String) : Option (List Token) :=
  (Lexer.tokensFrom? (s.length + 2) { cursor := { rest := s.toList } }).map (·.toList)

end FleetSizing.Yaml
