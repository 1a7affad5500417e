import FleetSizing.Unicode.AddedTable
import FleetSizing.Unicode.CaseTable
import FleetSizing.Unicode.Property

/-! Lowercase text, and characters that differ only in case. -/
namespace FleetSizing.Unicode

/-- Moves a code point by the entry it falls under. -/
def shift (table : List (Nat × Nat × Nat × Int)) (c : Nat) : Nat :=
  match table.find? fun (lo, hi, stride, _) => lo ≤ c && c ≤ hi && (c - lo) % stride == 0 with
  | some (_, _, _, by_) => ((c : Int) + by_).toNat
  | none => c

/-- Text is cased by version 17, which takes case away from one letter. -/
def textCased : CodeSet := (cased.diff (.single 0x295)).union ⟨addedCased⟩

def textCaseIgnorable : CodeSet := caseIgnorable.union ⟨addedCaseIgnorable⟩

/-- Letters and numbers of version 17. -/
def textAlphabetic : CodeSet := alphabetic.union ⟨addedAlphabetic⟩

def textAlphanumeric : CodeSet :=
  (textAlphabetic.union (ofCategory "N")).union ⟨addedNumeric⟩

/-- After characters that case ignores comes a cased one. -/
def casedAhead (cs : List Char) : Bool :=
  match (cs.dropWhile fun c => textCaseIgnorable.contains c.toNat).head? with
  | some c => textCased.contains c.toNat
  | none => false

/-- Lowercases text, given what stands before it in reverse. A capital sigma at the end of a word
takes its final form, and a dotted capital I keeps its dot. -/
def lowerFrom : List Char → List Char → List Char
  | _, [] => []
  | before, c :: rest =>
    let low :=
      if c.toNat < 128 then [c.toLower]
      else if c.toNat = 0x130 then [Char.ofNat 0x69, Char.ofNat 0x307]
      else if c.toNat = 0x3A3 then
        [Char.ofNat (if casedAhead before && !casedAhead rest then 0x3C2 else 0x3C3)]
      else [Char.ofNat (shift lowerShifts c.toNat)]
    low ++ lowerFrom (c :: before) rest

def toLower (s : String) : String := String.ofList (lowerFrom [] s.toList)

/-- Simple case folding. -/
def fold (c : Nat) : Nat := shift foldShifts c

/-- Code points with the same case folding. -/
def sameFold (c : Nat) : List Nat :=
  let f := fold c
  let others := foldShifts.filterMap fun (lo, hi, stride, by_) =>
    let d := (f : Int) - by_
    if lo ≤ d ∧ d ≤ hi ∧ (d.toNat - lo) % stride = 0 then some d.toNat else none
  f :: others

/-- Every code point that differs only in case from one of the set. -/
def closeUnderCase (s : CodeSet) : CodeSet :=
  let moved := foldShifts.flatMap fun (lo, hi, stride, _) =>
    (List.range ((hi - lo) / stride + 1)).map fun i => lo + i * stride
  let affected := (moved ++ moved.map fold).filter fun c => s.contains c
  s.union (CodeSet.ofRanges ((affected.flatMap sameFold).map fun c => (c, c)))

/-- The same for ASCII letters alone. -/
def closeUnderAsciiCase (s : CodeSet) : CodeSet :=
  let upper := (List.range 26).filter fun i => s.contains (i + 65) || s.contains (i + 97)
  s.union (CodeSet.ofRanges (upper.flatMap fun i => [(i + 65, i + 65), (i + 97, i + 97)]))

end FleetSizing.Unicode
