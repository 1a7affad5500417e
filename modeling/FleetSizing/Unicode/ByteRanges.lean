import FleetSizing.Unicode.CodeSet

/-! Characters as bytes: runs of characters as sequences of ranges of bytes. -/
namespace FleetSizing.Unicode

/-- The bytes of a character in UTF-8. -/
def utf8 (c : Nat) : List Nat :=
  if c < 0x80 then [c]
  else if c < 0x800 then [0xC0 + c / 64, 0x80 + c % 64]
  else if c < 0x10000 then [0xE0 + c / 4096, 0x80 + c / 64 % 64, 0x80 + c % 64]
  else [0xF0 + c / 262144, 0x80 + c / 4096 % 64, 0x80 + c / 64 % 64, 0x80 + c % 64]

/-- Where a run whose ends lie in different blocks of `size` characters has to be cut: after the
block it starts in, or before the one it ends in, if it holds only a part of that block. -/
def blockCut? (lo hi size : Nat) : Option (Nat × Nat) :=
  if lo / size = hi / size then none
  else if lo % size ≠ 0 then
    let next := (lo / size + 1) * size
    some (next - 1, next)
  else if hi % size ≠ size - 1 then
    let start := hi / size * size
    some (start - 1, start)
  else none

/-- Where to cut a run so that both parts are nearer to one sequence of ranges of bytes. -/
def cut? (lo hi : Nat) : Option (Nat × Nat) :=
  let crosses (limit : Nat) := lo ≤ limit && limit < hi
  if lo < 0xE000 ∧ 0xD7FF < hi then some (0xD7FF, 0xE000)
  else if crosses 0x7F then some (0x7F, 0x80)
  else if crosses 0x7FF then some (0x7FF, 0x800)
  else if crosses 0xFFFF then some (0xFFFF, 0x10000)
  else if hi < 0x80 then none
  else ((blockCut? lo hi 64).orElse fun _ => blockCut? lo hi 4096).orElse fun _ =>
    blockCut? lo hi 262144

/-- Sequences of ranges of bytes that make up a run of characters; surrogates have none. -/
def cutRun : Nat → Nat → Nat → List (List (Nat × Nat))
  | 0, _, _ => []
  | fuel + 1, lo, hi =>
    if hi < lo then []
    else match cut? lo hi with
      | some (upper, lower) => cutRun fuel lo upper ++ cutRun fuel lower hi
      | none => [(utf8 lo).zip (utf8 hi)]

/-- A run is cut at most at the surrogates, at three lengths and at two ends of three blocks, one cut
within the other. -/
def byteRanges (lo hi : Nat) : List (List (Nat × Nat)) := cutRun 16 lo hi

def CodeSet.byteSequences (s : CodeSet) : List (List (Nat × Nat)) :=
  s.ranges.flatMap fun (lo, hi) => byteRanges lo hi

end FleetSizing.Unicode
