/-! Sets of code points, as ascending ranges. -/
namespace FleetSizing

/-- Inclusive ranges, ascending and apart. -/
structure CodeSet where
  ranges : List (Nat × Nat)
  deriving DecidableEq, Repr, Inhabited

namespace CodeSet

def last : Nat := 0x10FFFF

def contains (s : CodeSet) (c : Nat) : Bool := s.ranges.any fun (lo, hi) => lo ≤ c && c ≤ hi

def empty : CodeSet := ⟨[]⟩

def all : CodeSet := ⟨[(0, last)]⟩

def range (lo hi : Nat) : CodeSet := ⟨[(lo, hi)]⟩

def single (c : Nat) : CodeSet := range c c

/-- Joins ranges that overlap or touch; the given ones ascend by their start. -/
def join : List (Nat × Nat) → List (Nat × Nat)
  | [] => []
  | r :: rest =>
    let step (acc : List (Nat × Nat) × (Nat × Nat)) (next : Nat × Nat) :=
      if next.1 ≤ acc.2.2 + 1 then (acc.1, (acc.2.1, max acc.2.2 next.2)) else (acc.2 :: acc.1, next)
    let (done, current) := rest.foldl step ([], r)
    (current :: done).reverse

def ofRanges (rs : List (Nat × Nat)) : CodeSet := ⟨join (rs.mergeSort fun a b => a.1 ≤ b.1)⟩

def union (a b : CodeSet) : CodeSet := ofRanges (a.ranges ++ b.ranges)

/-- The gaps from `start` on. -/
def gaps : Nat → List (Nat × Nat) → List (Nat × Nat)
  | start, [] => if start ≤ last then [(start, last)] else []
  | start, (lo, hi) :: rest =>
    if start < lo then (start, lo - 1) :: gaps (hi + 1) rest else gaps (hi + 1) rest

def complement (a : CodeSet) : CodeSet := ⟨gaps 0 a.ranges⟩

def inter (a b : CodeSet) : CodeSet := (union a.complement b.complement).complement

def diff (a b : CodeSet) : CodeSet := inter a b.complement

def symmDiff (a b : CodeSet) : CodeSet := diff (union a b) (inter a b)

/-- The characters at both sides of the surrogates, where one range ends and the next one starts. -/
def meetAtSurrogates : List (Nat × Nat) → List (Nat × Nat)
  | (_, hi) :: (lo, hi') :: rest =>
    if hi = 0xD7FF ∧ lo = 0xE000 then [(hi, hi), (lo, lo)] else meetAtSurrogates ((lo, hi') :: rest)
  | _ => []

/-- The complement as patterns take it: between two ranges that only surrogates keep apart it holds
the characters beside them. -/
def negation (a : CodeSet) : CodeSet :=
  a.complement.union ⟨meetAtSurrogates a.ranges⟩

/-- Whether only ASCII code points belong to the set. -/
def isAscii (a : CodeSet) : Bool := a.ranges.all fun (_, hi) => hi < 128

end CodeSet

end FleetSizing
