import FleetSizing.Pattern.Build
import FleetSizing.Pattern.Class
import FleetSizing.Powers

/-! Reading regular expressions. -/
namespace FleetSizing.Pattern

/-- A pattern as it is read: how deep its parts nest, and whether it only sets switches. -/
structure Node where
  pattern : Pattern
  depth : Nat := 0
  isSwitch : Bool := false
  deriving DecidableEq, Repr, Inhabited

structure Cursor where
  rest : List Char
  flags : Flags := {}
  /-- Names of groups read so far. -/
  names : List (List Char) := []
  /-- Groups counted so far. -/
  captures : Nat := 0
  deriving DecidableEq, Repr, Inhabited

def Cursor.at (s : Cursor) (rest : List Char) : Cursor := { s with rest }

def Cursor.skip (s : Cursor) : Cursor := s.at (s.flags.skip s.rest)

def deepest (nodes : List Node) : Nat := nodes.foldl (fun n d => max n d.depth) 0

/-- Parts one after the other. -/
def Node.sequence : List Node → Node
  | [] => ⟨.empty, 0, false⟩
  | [n] => n
  | nodes => ⟨Pattern.sequence (nodes.map (·.pattern)), deepest nodes + 1, false⟩

/-- Branches one of which has to match. -/
def Node.choice : List Node → Node
  | [n] => n
  | nodes => ⟨Pattern.choice (nodes.map (·.pattern)), deepest nodes + 1, false⟩

/-- Repeats the node read last. -/
def repeated? (least : Nat) (most : Option Nat) (greedy : Bool) : List Node → Option (List Node)
  | [] => none
  | n :: ns =>
    if n.isSwitch then none
    else some (⟨n.pattern.repeated least most greedy, n.depth + 1, false⟩ :: ns)

/-- Whether a repetition takes as much as it can; a question mark behind it turns this around. -/
def greed (f : Flags) : List Char → Bool × List Char
  | '?' :: r => (f.reluctant, r)
  | r => (!f.reluctant, r)

def isNumberBlank (c : Char) : Bool := Blank.isBlank c

/-- A number between blanks, of 32 bits at most. -/
def count? (f : Flags) (cs : List Char) : Option (Nat × List Char) :=
  let rec digits : Nat → List Char → List Char × List Char
    | 0, cs => ([], cs)
    | fuel + 1, cs =>
      match cs with
      | c :: r =>
        if c.isDigit then
          let (ds, r) := digits fuel (f.skip r)
          (c :: ds, r)
        else ([], cs)
      | [] => ([], cs)
  let (ds, r) := digits (cs.length + 1) (cs.dropWhile isNumberBlank)
  let n : Nat := ds.foldl (fun n c => n * 10 + (c.toNat - 48)) 0
  if ds.isEmpty ∨ pow2 32 ≤ n then none else some (n, r.dropWhile isNumberBlank)

/-- The bounds of a counted repetition, after its opening brace. -/
def bounds? (f : Flags) (cs : List Char) : Option (Nat × Option Nat × List Char) := do
  let (least, r) ← count? f (f.skip cs)
  let (most, r) ← match r with
    | ',' :: r =>
      match f.skip r with
      | '\x7d' :: r => some (none, '\x7d' :: r)
      | r => (count? f r).map fun (m, r) => (some m, r)
    | r => some (some least, r)
  match r with
  | '\x7d' :: r => if most.all (least ≤ ·) then some (least, most, f.skip r) else none
  | _ => none

def isNameStart (c : Char) : Bool := c == '_' || Unicode.textAlphabetic.contains c.toNat

def isNamePart (c : Char) : Bool :=
  c == '_' || c == '.' || c == '[' || c == ']' || Unicode.textAlphanumeric.contains c.toNat

/-- The name of a group, up to its closing angle bracket. -/
def groupName? (cs : List Char) : Option (List Char × List Char) :=
  let name := cs.takeWhile (· != '>')
  match name, cs.dropWhile (· != '>') with
  | c :: part, '>' :: r =>
    if isNameStart c ∧ part.all isNamePart then some (name, r) else none
  | _, _ => none

def setFlag? (f : Flags) (on : Bool) : Char → Option Flags
  | 'i' => some { f with ignoreCase := on }
  | 'm' => some { f with multiLine := on }
  | 's' => some { f with dotAll := on }
  | 'U' => some { f with reluctant := on }
  | 'u' => some { f with unicode := on }
  | 'R' => some { f with crlf := on }
  | 'x' => some { f with verbose := on }
  | _ => none

/-- Switches up to a colon or a closing parenthesis, which stays. No switch may be named twice. -/
def flags? : Bool → List Char → Flags → List Char → Option (Flags × Bool × List Char)
  | _, _, _, [] => none
  | on, seen, f, c :: r =>
    if c = ':' ∨ c = ')' then
      if seen.head? = some '-' then none else some (f, seen.isEmpty, c :: r)
    else if seen.contains c then none
    else if c = '-' then flags? false (c :: seen) f r
    else do flags? on (c :: seen) (← setFlag? f on c) r

def dotSet (f : Flags) : CodeSet :=
  if f.dotAll then .all
  else (if f.crlf then CodeSet.complement ⟨[(10, 10), (13, 13)]⟩ else (CodeSet.single 10).complement)

/-- A single character, escape or condition. -/
def primitive? (f : Flags) : List Char → Option (Pattern × List Char)
  | [] => none
  | '.' :: r => if f.unicode then some (ofSet (dotSet f), r) else none
  | '^' :: r => some (.look (if f.multiLine then .lineStart f.crlf else .textStart), r)
  | '$' :: r => some (.look (if f.multiLine then .lineEnd f.crlf else .textEnd), r)
  | '\\' :: r => do
    let (e, r) ← escape? f r
    match e with
    | .literal c => return (ofSet (f.foldSet (.single c.toNat)), r)
    | .set s => return (ofSet s, r)
    | .look l => return (.look l, r)
  | c :: r => some (ofSet (f.foldSet (.single c.toNat)), r)

mutual

/-- Items up to a bar, a closing parenthesis or the end, latest first. -/
def items? : Nat → Cursor → List Node → Option (List Node × Cursor)
  | 0, _, _ => none
  | fuel + 1, s, acc =>
    let s := s.skip
    match s.rest with
    | [] | ')' :: _ | '|' :: _ => some (acc, s)
    | '(' :: r => do
      let (node, s) ← group? fuel (s.at (s.flags.skip r))
      items? fuel s (node :: acc)
    | '[' :: r => do
      let (set, r) ← bracket? s.flags (r.length + 1) r
      items? fuel (s.at r) (⟨ofSet set.set, set.depth, false⟩ :: acc)
    | '?' :: r => do
      let (greedy, r) := greed s.flags r
      items? fuel (s.at r) (← repeated? 0 (some 1) greedy acc)
    | '*' :: r => do
      let (greedy, r) := greed s.flags r
      items? fuel (s.at r) (← repeated? 0 none greedy acc)
    | '+' :: r => do
      let (greedy, r) := greed s.flags r
      items? fuel (s.at r) (← repeated? 1 none greedy acc)
    | '\x7b' :: r => do
      let (least, most, r) ← bounds? s.flags r
      let (greedy, r) := greed s.flags r
      items? fuel (s.at r) (← repeated? least most greedy acc)
    | r => do
      let (p, r) ← primitive? s.flags r
      items? fuel (s.at r) (⟨p, 0, false⟩ :: acc)

/-- Branches between bars. -/
def branches? : Nat → Cursor → Option (List Node × Cursor)
  | 0, _ => none
  | fuel + 1, s => do
    let (nodes, s) ← items? fuel s []
    let branch := Node.sequence nodes.reverse
    match s.rest with
    | '|' :: r => do
      let (more, s) ← branches? fuel (s.at r)
      return (branch :: more, s)
    | _ => return ([branch], s)

/-- A group after its opening parenthesis; switches set in it end with it. -/
def group? : Nat → Cursor → Option (Node × Cursor)
  | 0, _ => none
  | fuel + 1, s =>
    let body (index : Option Nat) (inner : Cursor) : Option (Node × Cursor) := do
      let (nodes, t) ← branches? fuel inner
      match t.rest with
      | ')' :: r =>
        let node := Node.choice nodes
        let p := match index with
          | some n => .capture n node.pattern
          | none => node.pattern
        return (⟨p, node.depth + 1, false⟩, { t with rest := r, flags := s.flags })
      | _ => none
    let counted (inner : Cursor) : Option (Node × Cursor) :=
      body (some (s.captures + 1)) { inner with captures := s.captures + 1 }
    let named (r : List Char) : Option (Node × Cursor) := do
      let (name, r) ← groupName? r
      if s.names.contains name then none else counted { s with rest := r, names := name :: s.names }
    match s.rest with
    | '?' :: '=' :: _ | '?' :: '!' :: _ | '?' :: '<' :: '=' :: _ | '?' :: '<' :: '!' :: _ => none
    | '?' :: 'P' :: '<' :: r => named r
    | '?' :: '<' :: r => named r
    | '?' :: r => do
      let (f, isEmpty, r) ← flags? true [] s.flags r
      match r with
      | ')' :: r => if isEmpty then none else return (⟨.empty, 0, true⟩, { s with rest := r, flags := f })
      | ':' :: r => body none { s with rest := r, flags := f }
      | _ => none
    | r => counted (s.at r)

end

/-- Parts nest at most this deep. -/
def nestLimit : Nat := 250

/-- Reads a whole pattern; none if it is malformed, or nests too deep. -/
def read? (cs : List Char) : Option Pattern := do
  let (nodes, s) ← branches? (2 * cs.length + 4) ⟨cs, {}, [], 0⟩
  let node := Node.choice nodes
  if s.rest.isEmpty ∧ node.depth ≤ nestLimit then some node.pattern else none

end FleetSizing.Pattern
