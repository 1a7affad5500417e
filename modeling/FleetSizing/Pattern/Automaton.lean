import Std.Data.HashMap
import FleetSizing.Pattern.Compiler
import FleetSizing.Unicode.ByteRanges

/-! An estimate of the room that a library takes for a pattern, by the automata over bytes that it needs.
Only their size is worked out: a state takes 32 bytes, an edge of a state with many of them 8, and a way out
of a fork 4. -/
namespace FleetSizing.Pattern

/-- States so far, and the bytes they take. -/
structure Tally where
  states : Nat := 0
  bytes : Nat := 0
  deriving DecidableEq, Repr, Inhabited

/-- The room for one automaton. -/
def roomLimit : Nat := 10485760

abbrev Tallied := StateT Tally Option

/-- Adds states, with bytes for their edges; fails where the room is used up. -/
def add (states extra : Nat) : Tallied Unit := do
  let t ← get
  let next : Tally := ⟨t.states + states, t.bytes + 32 * states + extra⟩
  if roomLimit < next.bytes then failure else set next

/-- A way on from the end of a part, which takes room if the part ends in a fork. -/
def link (fork : Bool) : Tallied Unit := add 0 (if fork then 4 else 0)

/-- Mixes a number into a hash. -/
def mix (h : UInt64) (n : Nat) : UInt64 := (h ^^^ n.toUInt64) * 1099511628211

/-- The place of a key in a store of so many places. -/
def place (size : Nat) (key : List Nat) : Nat :=
  (key.foldl mix (14695981039346656037 : UInt64)).toNat % size

/-- States known by their edges; each place remembers the latest one put there. -/
structure Known where
  size : Nat
  entries : Std.HashMap Nat (List Nat × Nat) := {}

def Known.state? (k : Known) (key : List Nat) : Option Nat :=
  match k.entries[place k.size key]? with
  | some (found, id) => if found = key then some id else none
  | none => none

def Known.insert (k : Known) (key : List Nat) (id : Nat) : Known :=
  { k with entries := k.entries.insert (place k.size key) (key, id) }

/-- States made while a set is turned into an automaton. -/
structure Growth where
  next : Nat
  edges : Nat := 0
  known : Known

/-- The state known by a key, a new one with so many edges unless there is one. -/
def Growth.state (g : Growth) (key : List Nat) (edges : Nat) : Nat × Growth :=
  match g.known.state? key with
  | some id => (id, g)
  | none => (g.next, ⟨g.next + 1, g.edges + edges, g.known.insert key g.next⟩)

/-- An edge: a range of bytes and the state it leads to. -/
structure Edge where
  lo : Nat
  hi : Nat
  next : Nat
  deriving DecidableEq, Repr, Inhabited

/-- A state that may still get edges: those it has, latest first, and a range of bytes that leads to
the state below it. -/
structure OpenState where
  edges : List Edge := []
  last : Option (Nat × Nat) := none
  deriving Inhabited

def OpenState.close (s : OpenState) (next : Nat) : OpenState :=
  match s.last with
  | some (lo, hi) => ⟨⟨lo, hi, next⟩ :: s.edges, none⟩
  | none => s

/-- Turns open states, each below the one before it, into states; the last one leads to the target. -/
def closeAll (target : Nat) : List OpenState → Growth → Nat × Growth
  | [], g => (target, g)
  | s :: rest, g =>
    let (next, g) := closeAll target rest g
    let edges := (s.close next).edges.reverse
    g.state (edges.flatMap fun e => [e.lo, e.hi, e.next]) edges.length

/-- How many ranges of a sequence the open states follow. -/
def followed : List (Nat × Nat) → List OpenState → Nat
  | r :: rs, s :: rest => if s.last = some r then followed rs rest + 1 else 0
  | _, _ => 0

/-- Changes the last element. -/
def atLast {α : Type} (f : α → α) : List α → List α
  | [] => []
  | [a] => [f a]
  | a :: rest => a :: atLast f rest

/-- Adds a sequence behind the open states that it shares with the one before it. -/
def addSequence (target : Nat) (acc : List OpenState × Growth) (rs : List (Nat × Nat)) :
    List OpenState × Growth :=
  let (opened, g) := acc
  let shared := followed rs opened
  let (next, g) := closeAll target (opened.drop (shared + 1)) g
  let kept := atLast (·.close next) (opened.take (shared + 1))
  match rs.drop shared with
  | [] => (kept, g)
  | r :: below =>
    (atLast (fun s => { s with last := some r }) kept ++ below.map fun b => ⟨[], some b⟩, g)

/-- Sequences share their beginnings, and states with the same edges are one. -/
def setForward (sequences : List (List (Nat × Nat))) : Tallied Unit := do
  add 1 0
  let t ← get
  let target := t.states - 1
  let start : Growth := ⟨t.states, 0, ⟨10000, {}⟩⟩
  let (opened, g) := sequences.foldl (addSequence target) ([{}], start)
  let (_, g) := closeAll target opened g
  add (g.next - t.states) (8 * g.edges)

/-- Adds a sequence that ends where all do; known ends are shared. -/
def addBackward (g : Nat × Growth) (rs : List (Nat × Nat)) : Nat × Growth :=
  (g.1, (rs.foldl (fun acc (lo, hi) => acc.2.state [acc.1, lo, hi] 0) (g.1, g.2)).2)

/-- Sequences read from their last byte on share only their ends. -/
def setBackward (sequences : List (List (Nat × Nat))) : Tallied Unit := do
  add 2 0
  let t ← get
  let start : Growth := ⟨t.states, 0, ⟨1000, {}⟩⟩
  let (_, g) := sequences.foldl addBackward (t.states - 1, start)
  add (g.next - t.states) (4 * sequences.length)

def setStates (backward : Bool) (s : CodeSet) : Tallied Unit :=
  if s.isAscii then add 2 (8 * s.ranges.length)
  else
    let sequences := Unicode.CodeSet.byteSequences s
    if backward then setBackward sequences else setForward sequences

/-- Rests of texts between those that are used up, latest stretch first; the one still open comes
second. A text that is used up again before any other goes on is dropped. -/
def stretches (rests : List (List Nat)) : List (List (List Nat)) × List (List Nat) :=
  let step (acc : List (List (List Nat)) × List (List Nat)) (rest : List Nat) :=
    let (closed, current) := acc
    if rest.isEmpty then
      if !closed.isEmpty && current.isEmpty && closed.all (·.isEmpty) then acc
      else (current :: closed, [])
    else (closed, current ++ [rest])
  rests.foldl step ([], [])

def addByHead (groups : List (Nat × List (List Nat))) (text : List Nat) :
    List (Nat × List (List Nat)) :=
  match text with
  | [] => groups
  | b :: rest =>
    if groups.any (·.1 = b) then
      groups.map fun (head, rests) => if head = b then (head, rests ++ [rest]) else (head, rests)
    else groups ++ [(b, [rest])]

/-- States of a tree of texts, and the room of their edges: a fork with a way for every stretch and
one for every text that is used up. -/
def treeSize : Nat → List (List Nat) → Nat × Nat
  | 0, _ => (0, 0)
  | fuel + 1, rests =>
    let (closed, current) := stretches rests
    let ways := ((current :: closed).filter (!·.isEmpty)).map fun texts => texts.foldl addByHead []
    let edges := ways.foldl (fun n heads => n + if heads.length = 1 then 0 else 8 * heads.length) 0
    let own := (1 + ways.length, 4 * (ways.length + closed.length) + edges)
    let below := ways.flatMap fun heads => (heads.map (·.2)).filter (·.any (!·.isEmpty))
    below.foldl (fun acc rests => let (n, m) := treeSize fuel rests; (acc.1 + n, acc.2 + m)) own

def text? : Pattern → Option (List Char)
  | .text cs => some cs
  | _ => none

def bytesOf (cs : List Char) : List Nat := cs.flatMap fun c => Unicode.utf8 c.toNat

def treeStates (backward : Bool) (texts : List (List Char)) : Tallied Unit := do
  let texts := texts.map fun cs => if backward then (bytesOf cs).reverse else bytesOf cs
  let longest := texts.foldl (fun n bs => max n bs.length) 0
  let (states, edges) := treeSize (longest + 1) texts
  add (states + 1) edges

/-- Where a part stands: by itself, or among branches, of which it is the second or a later one. -/
inductive Position where
  | alone | second | later
  deriving DecidableEq, Repr

/-- Joins a branch to the others; with the second one the fork of the branches and their common end
come in. -/
def Position.finish (fork : Bool) : Position → Tallied Bool
  | alone => return fork
  | second => do add 2 4; link fork; return false
  | later => do add 0 4; link fork; return false

/-- A part again so many times; tells whether the last one ends in a fork. -/
def again (part : Tallied Bool) : Nat → Bool → Tallied Bool
  | 0, fork => return fork
  | n + 1, fork => do
    let next ← part
    link fork
    again part n next

def inARow (part : Tallied Bool) : Nat → Tallied Bool
  | 0 => do add 1 0; return false
  | n + 1 => do again part n (← part)

/-- A part that may be left out, so many times, each behind a fork. -/
def optional (part : Tallied Bool) : Nat → Bool → Tallied Unit
  | 0, fork => link fork
  | n + 1, fork => do
    add 1 8
    link fork
    optional part n (← part)

/-- States of a part; tells whether it ends in a fork. Backward automata read the text from its end
and count no groups. -/
def states (backward : Bool) : Pattern → Position → Tallied Bool
  | .empty, at_ => do add 1 0; at_.finish false
  | .text cs, at_ => do add (bytesOf cs).length 0; at_.finish false
  | .chars s, at_ => do setStates backward s; at_.finish false
  | .look _, at_ => do add 1 0; at_.finish false
  | .capture _ p, at_ => do
    if backward then at_.finish (← states backward p .alone)
    else
      add 1 0
      let fork ← states backward p .alone
      add 1 0
      link fork
      at_.finish false
  | .seq a b, at_ => do
    if backward then
      let fork ← states backward b .alone
      let last ← states backward a .alone
      link fork
      at_.finish last
    else
      let fork ← states backward a .alone
      let last ← states backward b .alone
      link fork
      at_.finish last
  | .alt a b, .alone => do
    match (branches (.alt a b)).mapM text? with
    | some texts => treeStates backward texts; return false
    | none =>
      let fork ← states backward a .alone
      add 0 4
      link fork
      states backward b .second
  | .alt a b, at_ => do
    let fork ← states backward a .alone
    discard (at_.finish fork)
    states backward b .later
  | .times p least most _, at_ => do
    let part := states backward p .alone
    match least, most with
    | 0, some 1 =>
      add 1 8
      let fork ← part
      add 1 0
      link fork
      at_.finish false
    | 0, none =>
      if (leastLength? p).any (0 < ·) then
        add 1 4
        link (← part)
        at_.finish true
      else
        let fork ← part
        add 3 16
        link fork
        at_.finish false
    | 1, none =>
      let fork ← part
      add 1 4
      link fork
      at_.finish true
    | n, none =>
      let before ← inARow part (n - 1)
      let fork ← part
      add 1 4
      link before
      link fork
      at_.finish true
    | n, some m =>
      let fork ← inARow part n
      if n < m then
        add 1 0
        optional part (m - n) fork
        at_.finish false
      else at_.finish fork

/-- States of a whole automaton: what skips the text before a match, the pattern, and its end. -/
def allStates (backward : Bool) (p : Pattern) : Tallied Unit := do
  if (if backward then isAnchoredAtEnd p else isAnchoredAtStart p) then add 1 0 else add 3 16
  let fork ← states backward (if backward then p else .capture 0 p) .alone
  add 1 0
  link fork

/-- Whether both automata of a pattern find room, the one that reads on and the one that reads back. -/
def fits (p : Pattern) : Bool :=
  ((allStates false p).run {}).isSome && ((allStates true p).run {}).isSome

/-- What the program is run with, the reasons of the library left out. Statements leave the compiler open. -/
def Compiler.standard : Compiler where
  hasRoom cs := (read? cs).any fits
  reason? _ := none

end FleetSizing.Pattern
