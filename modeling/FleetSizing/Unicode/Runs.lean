import FleetSizing.Unicode.CodeSet

/-! Tables written as lengths of runs, and the names they are found by. -/
namespace FleetSizing.Unicode

def number (cs : List Char) : Nat := cs.foldl (fun n c => n * 10 + (c.toNat - 48)) 0

/-- Pieces between the marks; a mark at the end starts no piece. -/
def pieces (isMark : Char → Bool) (cs : List Char) : List (List Char) :=
  let step (acc : List (List Char) × List Char) (c : Char) :=
    if isMark c then (if acc.2.isEmpty then acc else (acc.2.reverse :: acc.1, [])) else (acc.1, c :: acc.2)
  let (done, current) := cs.foldl step ([], [])
  (if current.isEmpty then done else current.reverse :: done).reverse

/-- Words of a table, split at blanks and line ends. -/
def tableWords (s : String) : List (List Char) := pieces (fun c => c == ' ' || c == '\n') s.toList

/-- Names between slashes. -/
def slashed (cs : List Char) : List String := (pieces (· == '/') cs).map String.ofList

/-- Ranges inside, given lengths of runs outside and inside in turn. -/
def alternating : Nat → Bool → List (List Char) → List (Nat × Nat)
  | start, has, [] => if has then [(start, CodeSet.last)] else []
  | start, has, w :: ws =>
    let next := start + number w
    if has then (start, next - 1) :: alternating next false ws else alternating next true ws

def ofAlternating (s : String) : CodeSet := ⟨alternating 0 false (tableWords s)⟩

/-- Ranges with their tags, given tags and lengths of runs. -/
def tagged : Nat → List (List Char) → List (String × Nat × Nat)
  | _, [] => []
  | start, w :: ws =>
    let tag := w.takeWhile (!·.isDigit)
    let length := number (w.dropWhile (!·.isDigit))
    (String.ofList tag, start, start + length - 1) :: tagged (start + length) ws

/-- Code points whose tag satisfies a condition. -/
def select (table : List (String × Nat × Nat)) (p : String → Bool) : CodeSet :=
  CodeSet.ofRanges ((table.filter (p ·.1)).map (·.2))

/-- Names compare without case, blanks, underscores, hyphens, and an initial `is`, which stays where
a name would be left that means something else. -/
def looseName (name : String) : String :=
  let bare (cs : List Char) :=
    (cs.filter fun c => !(c == ' ' || c == '_' || c == '-') && c.toNat < 128).map Char.toLower
  let cs := name.toList
  String.ofList <|
    if (cs.take 2).map Char.toLower == ['i', 's'] then
      let rest := bare (cs.drop 2)
      if rest == ['c'] then ['i', 's', 'c'] else rest
    else bare cs

/-- Whether a loose name is one of the names between slashes. -/
def named (names : String) (name : String) : Bool :=
  (slashed names.toList).any fun n => looseName n == name

/-- The set listed under a loose name. -/
def listed? (table : List (String × String)) (name : String) : Option CodeSet :=
  (table.find? fun (names, _) => named names name).map fun (_, runs) => ofAlternating runs

end FleetSizing.Unicode
