import FleetSizing.Unicode.Case

/-! Regular expressions over text, and what they match. -/
namespace FleetSizing

/-- Which edge of a word a position has to be. -/
inductive WordEdge where
  | boundary | notBoundary | start | stop | startHalf | stopHalf
  deriving DecidableEq, Repr

/-- Conditions on a position. -/
inductive Look where
  | textStart
  | textEnd
  /-- Start of a line; with `crlf` a carriage return ends lines too. -/
  | lineStart (crlf : Bool)
  | lineEnd (crlf : Bool)
  /-- An edge between characters of the word set and others. -/
  | word (edge : WordEdge) (ascii : Bool)
  deriving DecidableEq, Repr

inductive Pattern where
  | empty
  /-- These characters, one after the other. -/
  | text (cs : List Char)
  | chars (s : CodeSet)
  | look (l : Look)
  /-- A group that is counted. -/
  | capture (index : Nat) (p : Pattern)
  | seq (a b : Pattern)
  | alt (a b : Pattern)
  /-- At least and at most so many times; without a limit as often as one likes. -/
  | times (p : Pattern) (least : Nat) (most : Option Nat) (greedy : Bool)
  deriving DecidableEq, Repr, Inhabited

abbrev Subject := Array Char

namespace Look

def isWordChar (ascii : Bool) (c : Char) : Bool :=
  if ascii || c.toNat < 128 then c.isAlphanum || c == '_' else Unicode.word.contains c.toNat

def isWordAt (ascii : Bool) (t : Subject) (i : Nat) : Bool := (t[i]?).any (isWordChar ascii)

def isWordBefore (ascii : Bool) (t : Subject) (i : Nat) : Bool := 0 < i && isWordAt ascii t (i - 1)

def charAt (t : Subject) (i : Nat) (c : Char) : Bool := t[i]? == some c

def charBefore (t : Subject) (i : Nat) (c : Char) : Bool := 0 < i && t[i - 1]? == some c

/-- Whether a condition holds at a position. -/
def holds (t : Subject) (i : Nat) : Look → Bool
  | .textStart => i == 0
  | .textEnd => i == t.size
  | .lineStart false => i == 0 || charBefore t i '\n'
  | .lineStart true =>
    i == 0 || charBefore t i '\n' || (charBefore t i '\r' && !charAt t i '\n')
  | .lineEnd false => i == t.size || charAt t i '\n'
  | .lineEnd true =>
    i == t.size || charAt t i '\r' || (charAt t i '\n' && !charBefore t i '\r')
  | .word edge ascii =>
    let before := isWordBefore ascii t i
    let after := isWordAt ascii t i
    match edge with
    | .boundary => before != after
    | .notBoundary => before == after
    | .start => !before && after
    | .stop => before && !after
    | .startHalf => !before
    | .stopHalf => !after

end Look

namespace Pattern

/-- Whether the characters stand at a position of the text. -/
def standsAt (t : Subject) : List Char → Nat → Bool
  | [], _ => true
  | c :: cs, i => t[i]? == some c && standsAt t cs (i + 1)

/-- `Matches t p i j`: between positions `i` and `j` the text matches the pattern. -/
inductive Matches (t : Subject) : Pattern → Nat → Nat → Prop where
  | empty {i : Nat} : Matches t .empty i i
  | text {cs : List Char} {i : Nat} : standsAt t cs i → Matches t (.text cs) i (i + cs.length)
  | chars {s : CodeSet} {i : Nat} {c : Char} :
      t[i]? = some c → s.contains c.toNat → Matches t (.chars s) i (i + 1)
  | look {l : Look} {i : Nat} : l.holds t i → Matches t (.look l) i i
  | capture {n : Nat} {p : Pattern} {i j : Nat} : Matches t p i j → Matches t (.capture n p) i j
  | seq {a b : Pattern} {i j k : Nat} : Matches t a i j → Matches t b j k → Matches t (.seq a b) i k
  | altLeft {a b : Pattern} {i j : Nat} : Matches t a i j → Matches t (.alt a b) i j
  | altRight {a b : Pattern} {i j : Nat} : Matches t b i j → Matches t (.alt a b) i j
  | done {p : Pattern} {i : Nat} {most : Option Nat} {greedy : Bool} :
      Matches t (.times p 0 most greedy) i i
  | again {p : Pattern} {least : Nat} {most : Option Nat} {greedy : Bool} {i j k : Nat} :
      most ≠ some 0 → Matches t p i j →
      Matches t (.times p (least - 1) (most.map (· - 1)) greedy) j k →
      Matches t (.times p least most greedy) i k

/-- Positions reached by taking a step from any of the given ones. -/
def advance (step : Nat → List Nat) (starts : List Nat) : List Nat := (starts.flatMap step).eraseDups

/-- Positions reached by exactly so many steps. -/
def exactly (step : Nat → List Nat) : Nat → List Nat → List Nat
  | 0, starts => starts
  | n + 1, starts => if starts.isEmpty then [] else exactly step n (advance step starts)

/-- Positions reached by at most so many steps. -/
def upTo (step : Nat → List Nat) : Nat → List Nat → List Nat
  | 0, starts => starts
  | n + 1, starts => (starts ++ upTo step n (advance step starts)).eraseDups

/-- Positions at which a match that begins at a position can end. Without a limit, repeating a pattern
more often than there are positions reaches none that is new. -/
def ends (t : Subject) : Pattern → Nat → List Nat
  | .empty, i => [i]
  | .text cs, i => if standsAt t cs i then [i + cs.length] else []
  | .chars s, i => if (t[i]?).any fun c => s.contains c.toNat then [i + 1] else []
  | .look l, i => if l.holds t i then [i] else []
  | .capture _ p, i => ends t p i
  | .seq a b, i => advance (ends t b) (ends t a i)
  | .alt a b, i => (ends t a i ++ ends t b i).eraseDups
  | .times p least most _, i =>
    let first := exactly (ends t p) least [i]
    match most with
    | none => upTo (ends t p) (t.size + 1) first
    | some m => if m < least then [] else upTo (ends t p) (min (m - least) (t.size + 1)) first

/-- Whether a match begins at some position of the text. -/
def isMatch (p : Pattern) (s : String) : Bool :=
  let t := s.toList.toArray
  (List.range (t.size + 1)).any fun i => !(ends t p i).isEmpty

end Pattern

end FleetSizing
