import FleetSizing.Pattern.Basic

/-! Patterns put together from parts, in their plainest form. -/
namespace FleetSizing.Pattern

/-- Matches nothing. -/
def fail : Pattern := .chars .empty

/-- One character of a set; a set of one is plain text. -/
def ofSet (s : CodeSet) : Pattern :=
  match s.ranges with
  | [(lo, hi)] => if lo = hi ∧ lo.isValidChar then .text [Char.ofNat lo] else .chars s
  | _ => .chars s

/-- The parts of a sequence. -/
def items : Pattern → List Pattern
  | .empty => []
  | .seq a b => a :: items b
  | p => [p]

/-- The branches of a choice. -/
def branches : Pattern → List Pattern
  | .alt a b => a :: branches b
  | p => [p]

/-- Joins neighbouring texts. -/
def joinTexts : List Pattern → List Pattern
  | [] => []
  | .text cs :: rest =>
    match joinTexts rest with
    | .text ds :: more => .text (cs ++ ds) :: more
    | more => .text cs :: more
  | p :: rest => p :: joinTexts rest

def inOrder : List Pattern → Pattern
  | [] => .empty
  | [p] => p
  | p :: ps => .seq p (inOrder ps)

/-- Patterns one after the other. -/
def sequence (ps : List Pattern) : Pattern := inOrder (joinTexts (ps.flatMap items))

def anyOf : List Pattern → Pattern
  | [] => fail
  | [p] => p
  | p :: ps => .alt p (anyOf ps)

def character? : Pattern → Option CodeSet
  | .text [c] => some (.single c.toNat)
  | _ => none

def set? : Pattern → Option CodeSet
  | .chars s => some s
  | _ => none

def unionAll (ss : List CodeSet) : CodeSet := CodeSet.ofRanges (ss.flatMap (·.ranges))

/-- The parts that two lists start with. -/
def commonPrefix : List Pattern → List Pattern → List Pattern
  | a :: as, b :: bs => if a = b then a :: commonPrefix as bs else []
  | _, _ => []

def sequenceItems? : Pattern → Option (List Pattern)
  | .seq a b => some (a :: items b)
  | _ => none

/-- Parts that all branches start with, and what each of them goes on with. -/
def lifted? (ps : List Pattern) : Option (List Pattern × List Pattern) := do
  match ← ps.mapM sequenceItems? with
  | [] => none
  | first :: rest =>
    let shared := rest.foldl commonPrefix first
    if shared.isEmpty then none
    else some (shared, (first :: rest).map fun parts => sequence (parts.drop shared.length))

/-- How many parts a pattern has. -/
def weight : Pattern → Nat
  | .seq a b | .alt a b => weight a + weight b + 1
  | .capture _ p | .times p _ _ _ => weight p + 1
  | _ => 1

/-- Patterns one of which has to match: sets join, and what all branches start with comes first. -/
def choiceOf : Nat → List Pattern → Pattern
  | fuel, ps =>
    match ps.flatMap branches with
    | [p] => p
    | ps =>
      match (ps.mapM character?).orElse fun _ => ps.mapM set? with
      | some ss => ofSet (unionAll ss)
      | none =>
        match fuel, lifted? ps with
        | fuel + 1, some (shared, rest) => sequence (shared ++ [choiceOf fuel rest])
        | _, _ => anyOf ps

def choice (ps : List Pattern) : Pattern :=
  choiceOf (ps.foldl (fun n p => n + weight p) 0) ps

/-- Whether the pattern matches the empty text alone. -/
def isEmptyOnly : Pattern → Bool
  | .empty | .look _ => true
  | .text _ | .chars _ => false
  | .capture _ p => isEmptyOnly p
  | .seq a b | .alt a b => isEmptyOnly a && isEmptyOnly b
  | .times p _ most _ => most.isSome && isEmptyOnly p

/-- Repeats a pattern; what matches the empty text alone is repeated at most once. -/
def repeated (least : Nat) (most : Option Nat) (greedy : Bool) (p : Pattern) : Pattern :=
  let (least, most) :=
    if isEmptyOnly p then (min least 1, some (min (most.getD 1) 1)) else (least, most)
  if most = some 0 then .empty
  else if least = 1 ∧ most = some 1 then p
  else .times p least most greedy

/-- The least number of characters of a match; none where some part matches nothing. -/
def leastLength? : Pattern → Option Nat
  | .empty | .look _ => some 0
  | .text cs => some cs.length
  | .chars s => if s.ranges.isEmpty then none else some 1
  | .capture _ p => leastLength? p
  | .seq a b => do return (← leastLength? a) + (← leastLength? b)
  | .alt a b => do return min (← leastLength? a) (← leastLength? b)
  | .times p least _ _ => (leastLength? p).map (· * least)

/-- Whether every match starts where the text does. -/
def isAnchoredAtStart : Pattern → Bool
  | .look l => l == .textStart
  | .capture _ p => isAnchoredAtStart p
  | .seq a b => isAnchoredAtStart a || (isEmptyOnly a && isAnchoredAtStart b)
  | .alt a b => isAnchoredAtStart a && isAnchoredAtStart b
  | .times p least _ _ => least != 0 && isAnchoredAtStart p
  | _ => false

/-- Whether every match ends where the text does. -/
def isAnchoredAtEnd : Pattern → Bool
  | .look l => l == .textEnd
  | .capture _ p => isAnchoredAtEnd p
  | .seq a b => isAnchoredAtEnd b || (isEmptyOnly b && isAnchoredAtEnd a)
  | .alt a b => isAnchoredAtEnd a && isAnchoredAtEnd b
  | .times p least _ _ => least != 0 && isAnchoredAtEnd p
  | _ => false

end FleetSizing.Pattern
