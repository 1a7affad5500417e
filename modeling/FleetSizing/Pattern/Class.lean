import FleetSizing.Pattern.Basic

/-! Character classes of regular expressions: escapes, named sets and bracketed sets. -/
namespace FleetSizing.Pattern

/-- Switches in force at a place of a pattern. -/
structure Flags where
  ignoreCase : Bool := false
  multiLine : Bool := false
  dotAll : Bool := false
  unicode : Bool := true
  crlf : Bool := false
  /-- Blanks and comments in the pattern are skipped. -/
  verbose : Bool := false
  /-- Repetitions take as little as they can. -/
  reluctant : Bool := false
  deriving DecidableEq, Repr, Inhabited

def skipComment (cs : List Char) : List Char := (cs.dropWhile (· != '\n')).drop 1

/-- Skips blanks and comments. -/
def skip : Nat → List Char → List Char
  | 0, cs => cs
  | fuel + 1, cs =>
    match cs with
    | c :: r =>
      if Blank.isBlank c then skip fuel r
      else if c == '#' then skip fuel (skipComment r)
      else cs
    | [] => []

/-- Only verbose patterns have blanks and comments to skip. -/
def Flags.skip (f : Flags) (cs : List Char) : List Char :=
  if f.verbose then Pattern.skip cs.length cs else cs

/-- The set of a literal, widened to other cases where case is ignored. -/
def Flags.foldSet (f : Flags) (s : CodeSet) : CodeSet :=
  if f.ignoreCase then
    (if f.unicode then Unicode.closeUnderCase s else Unicode.closeUnderAsciiCase s)
  else s

/-- Without Unicode nothing is left out, as the rest holds bytes that end matches inside a
character. -/
def Flags.negate? (f : Flags) (negated : Bool) (s : CodeSet) : Option CodeSet :=
  if negated then (if f.unicode then some s.negation else none) else some s

def asciiDigit : CodeSet := CodeSet.range 48 57

def asciiWord : CodeSet := ⟨[(48, 57), (65, 90), (95, 95), (97, 122)]⟩

def asciiSpace : CodeSet := ⟨[(9, 13), (32, 32)]⟩

/-- The sets written with one letter; a capital one stands for all other characters. -/
def Flags.letterSet? (f : Flags) (c : Char) : Option (Bool × CodeSet) :=
  match c.toLower with
  | 'd' => some (c.isUpper, if f.unicode then Unicode.decimalDigit else asciiDigit)
  | 's' => some (c.isUpper, if f.unicode then Unicode.whiteSpace else asciiSpace)
  | 'w' => some (c.isUpper, if f.unicode then Unicode.word else asciiWord)
  | _ => none

/-- The sets written with a name between colons. -/
def asciiSet? : String → Option CodeSet
  | "alnum" => some ⟨[(48, 57), (65, 90), (97, 122)]⟩
  | "alpha" => some ⟨[(65, 90), (97, 122)]⟩
  | "ascii" => some ⟨[(0, 127)]⟩
  | "blank" => some ⟨[(9, 9), (32, 32)]⟩
  | "cntrl" => some ⟨[(0, 31), (127, 127)]⟩
  | "digit" => some asciiDigit
  | "graph" => some ⟨[(33, 126)]⟩
  | "lower" => some ⟨[(97, 122)]⟩
  | "print" => some ⟨[(32, 126)]⟩
  | "punct" => some ⟨[(33, 47), (58, 64), (91, 96), (123, 126)]⟩
  | "space" => some asciiSpace
  | "upper" => some ⟨[(65, 90)]⟩
  | "word" => some asciiWord
  | "xdigit" => some ⟨[(48, 57), (65, 70), (97, 102)]⟩
  | _ => none

def metaChars : List Char :=
  ['\\', '.', '+', '*', '?', '(', ')', '|', '[', ']', '\x7b', '\x7d', '^', '$', '#', '&', '-', '~']

/-- Characters that may stand behind a backslash for themselves. -/
def isEscapable (c : Char) : Bool :=
  metaChars.contains c || (c.toNat < 128 && !c.isAlphanum && c != '<' && c != '>')

/-- What an escape stands for. -/
inductive Escape where
  | literal (c : Char)
  /-- A byte outside ASCII where Unicode is off. -/
  | set (s : CodeSet)
  | look (l : Look)
  deriving DecidableEq, Repr

def hexValue? (c : Char) : Option Nat :=
  if c.isDigit then some (c.toNat - 48)
  else if 'a' ≤ c ∧ c ≤ 'f' then some (c.toNat - 87)
  else if 'A' ≤ c ∧ c ≤ 'F' then some (c.toNat - 55)
  else none

def scalar? (n : Nat) : Option Char :=
  if n < 0xD800 ∨ (0xE000 ≤ n ∧ n ≤ 0x10FFFF) then some (Char.ofNat n) else none

def hexDigits? (f : Flags) : Nat → Nat → List Char → Option (Nat × List Char)
  | 0, acc, cs => some (acc, cs)
  | n + 1, acc, c :: r => do hexDigits? f n (acc * 16 + (← hexValue? c)) (f.skip r)
  | _ + 1, _, [] => none

/-- Takes characters up to a closing brace. -/
def braced? (f : Flags) : Nat → List Char → Option (List Char × List Char)
  | 0, _ => none
  | fuel + 1, cs =>
    match f.skip cs with
    | '\x7d' :: r => some ([], r)
    | c :: r => do
      let (cs, r) ← braced? f fuel r
      return (c :: cs, r)
    | [] => none

/-- A character by its number in hexadecimal: so many digits, or any number of them in braces. -/
def hexEscape? (f : Flags) (width : Nat) (cs : List Char) : Option (Escape × List Char) :=
  match f.skip cs with
  | '\x7b' :: r => do
    let (ds, r) ← braced? f (r.length + 1) r
    if ds.isEmpty then none
    else
      let n ← ds.foldlM (fun n c => do return n * 16 + (← hexValue? c)) 0
      return (.literal (← scalar? n), r)
  | r => do
    let (n, r) ← hexDigits? f width 0 r
    let c ← scalar? n
    if ¬ f.unicode ∧ width = 2 ∧ 127 < n then none else return (.literal c, r)

/-- Text before and after the first occurrence of some text. -/
def cut? (mark : List Char) : List Char → Option (List Char × List Char)
  | [] => none
  | c :: r =>
    if (c :: r).take mark.length = mark then some ([], (c :: r).drop mark.length)
    else (cut? mark r).map fun (a, b) => (c :: a, b)

/-- The set of a property, and whether its name asks for all other characters. -/
def namedSet? (name : List Char) : Option (Bool × CodeSet) :=
  let text (cs : List Char) := String.ofList cs
  match cut? ['!', '='] name with
  | some (a, b) => (Unicode.propertyValue? (text a) (text b)).map fun s => (true, s)
  | none =>
    match (cut? [':'] name).orElse fun _ => cut? ['='] name with
    | some (a, b) => (Unicode.propertyValue? (text a) (text b)).map fun s => (false, s)
    | none => (Unicode.property? (text name)).map fun s => (false, s)

/-- A Unicode property, by one letter or by name in braces. -/
def propertySet? (f : Flags) (negated : Bool) (cs : List Char) : Option (Escape × List Char) := do
  let (name, r) ← match f.skip cs with
    | '\x7b' :: r => braced? f (r.length + 1) r
    | '\\' :: _ => none
    | c :: r => some ([c], f.skip r)
    | [] => none
  if f.unicode then
    let (others, s) ← namedSet? name
    return (.set (← f.negate? (negated != others) (f.foldSet s)), r)
  else none

/-- Edges of words named in braces; anything that cannot be a name is left for a repetition. -/
def wordEdge? (f : Flags) (cs : List Char) : Option (Look × List Char) :=
  let plain : Look := .word .boundary (!f.unicode)
  match cs with
  | '\x7b' :: r =>
    let isNameChar (c : Char) := c.isAlpha || c == '-'
    match f.skip r with
    | [] => none
    | c :: _ =>
      if isNameChar c then do
        let (name, r) ← braced? f (r.length + 1) r
        let edge ← match String.ofList name with
          | "start" => some WordEdge.start
          | "end" => some WordEdge.stop
          | "start-half" => some WordEdge.startHalf
          | "end-half" => some WordEdge.stopHalf
          | _ => none
        return (.word edge (!f.unicode), r)
      else some (plain, cs)
  | _ => some (plain, cs)

/-- What follows a backslash. -/
def escape? (f : Flags) : List Char → Option (Escape × List Char)
  | [] => none
  | c :: r =>
    if c.isDigit then none
    else match c with
      | 'x' => hexEscape? f 2 r
      | 'u' => hexEscape? f 4 r
      | 'U' => hexEscape? f 8 r
      | 'p' => propertySet? f false r
      | 'P' => propertySet? f true r
      | 'a' => some (.literal '\x07', r)
      | 'f' => some (.literal '\x0c', r)
      | 't' => some (.literal '\t', r)
      | 'n' => some (.literal '\n', r)
      | 'r' => some (.literal '\r', r)
      | 'v' => some (.literal '\x0b', r)
      | 'A' => some (.look .textStart, r)
      | 'z' => some (.look .textEnd, r)
      | 'b' => (wordEdge? f r).map fun (l, r) => (.look l, r)
      | 'B' => some (.look (.word .notBoundary (!f.unicode)), r)
      | '<' => some (.look (.word .start (!f.unicode)), r)
      | '>' => some (.look (.word .stop (!f.unicode)), r)
      | c =>
        match f.letterSet? c with
        | some (negated, s) => (f.negate? negated s).map fun s => (.set s, r)
        | none => if isEscapable c then some (.literal c, r) else none

/-- One member of a bracketed set. -/
def classItem? (f : Flags) : List Char → Option (Escape × List Char)
  | [] => none
  | '\\' :: r => escape? f r
  | c :: r => some (.literal c, r)

def Escape.set? (f : Flags) : Escape → Option CodeSet
  | .literal c => if f.unicode || c.toNat < 128 then some (.single c.toNat) else none
  | .set s => some s
  | .look _ => none

/-- A member or a range of members. -/
def classRange? (f : Flags) (cs : List Char) : Option (CodeSet × List Char) := do
  let (a, r) ← classItem? f cs
  let r := f.skip r
  match r with
  | [] => none
  | '-' :: after =>
    match f.skip after with
    | ']' :: _ | '-' :: _ => return (← a.set? f, r)
    | [] => none
    | second =>
      let (b, r) ← classItem? f second
      match a, b with
      | .literal x, .literal y =>
        if x.toNat ≤ y.toNat ∧ (f.unicode ∨ y.toNat < 128) then
          return (.range x.toNat y.toNat, r)
        else none
      | _, _ => none
  | _ => return (← a.set? f, r)

/-- A named set, if the text after an opening bracket is one, and whether it is negated. -/
def asciiClass? (f : Flags) : List Char → Option ((Bool × CodeSet) × List Char)
  | ':' :: r =>
    let (negated, r) := match r with
      | '^' :: r => (true, r)
      | r => (false, r)
    let name := r.takeWhile (· != ':')
    match r.dropWhile (· != ':') with
    | ':' :: ']' :: r => do
      return ((negated, f.foldSet (← asciiSet? (String.ofList name))), r)
    | _ => none
  | _ => none

inductive SetOp where
  | inter | diff | symmDiff
  deriving DecidableEq, Repr

def SetOp.apply (a b : CodeSet) : SetOp → CodeSet
  | inter => a.inter b
  | diff => a.diff b
  | symmDiff => a.symmDiff b

/-- Members read so far: their union, how many there are, and how deep sets nest in them. -/
structure Members where
  set : CodeSet := .empty
  count : Nat := 0
  depth : Nat := 0
  deriving DecidableEq, Repr, Inhabited

def Members.add (m : Members) (s : CodeSet) (depth : Nat) : Members :=
  ⟨m.set.union s, m.count + 1, max m.depth depth⟩

/-- Several members are one level above the deepest of them. -/
def Members.level (m : Members) : Nat := if 1 < m.count then m.depth + 1 else m.depth

/-- A set read so far and how deep it nests. -/
structure Operand where
  set : CodeSet
  depth : Nat
  deriving DecidableEq, Repr, Inhabited

/-- Applies the operation that waits for its right side. -/
def applyOp (f : Flags) : Option (SetOp × Operand) → Members → Operand
  | none, m => ⟨m.set, m.level⟩
  | some (op, left), m =>
    ⟨op.apply (f.foldSet left.set) (f.foldSet m.set), max left.depth m.level + 1⟩

/-- Dashes before the first member of a set. -/
def leadingDashes (f : Flags) : Nat → Members → List Char → Members × List Char
  | 0, m, cs => (m, cs)
  | fuel + 1, m, cs =>
    match cs with
    | '-' :: r => leadingDashes f fuel (m.add (.single 45) 0) (f.skip r)
    | _ => (m, cs)

mutual

/-- A bracketed set after its opening bracket, and how deep sets nest in it. -/
def bracket? (f : Flags) : Nat → List Char → Option (Operand × List Char)
  | 0, _ => none
  | fuel + 1, cs => do
    let (negated, r) := match f.skip cs with
      | '^' :: r => (true, f.skip r)
      | r => (false, r)
    let (m, r) := leadingDashes f (r.length + 1) {} r
    let (m, r) := match m.count, r with
      | 0, ']' :: r => (m.add (.single 93) 0, r)
      | _, r => (m, r)
    let (body, r) ← members? f fuel none m r
    return (⟨← f.negate? negated (f.foldSet body.set), body.depth + 1⟩, r)

/-- Members and operations of a set up to its closing bracket. -/
def members? (f : Flags) : Nat → Option (SetOp × Operand) → Members → List Char →
    Option (Operand × List Char)
  | 0, _, _, _ => none
  | fuel + 1, waiting, m, cs =>
    let operate (op : SetOp) (r : List Char) :=
      members? f fuel (some (op, applyOp f waiting m)) {} r
    match f.skip cs with
    | [] => none
    | ']' :: r => some (applyOp f waiting m, r)
    | '[' :: r =>
      match asciiClass? f r with
      | some ((negated, s), r) => do members? f fuel waiting (m.add (← f.negate? negated s) 0) r
      | none => do
        let (inner, r) ← bracket? f fuel r
        members? f fuel waiting (m.add inner.set inner.depth) r
    | '&' :: '&' :: r => operate .inter r
    | '-' :: '-' :: r => operate .diff r
    | '~' :: '~' :: r => operate .symmDiff r
    | r => do
      let (item, r) ← classRange? f r
      members? f fuel waiting (m.add item 0) r

end

end FleetSizing.Pattern
