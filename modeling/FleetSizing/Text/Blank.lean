/-! Blank characters of Unicode, and texts without them at either end. -/
namespace FleetSizing.Blank

/-- The property `White_Space`. -/
def ranges : List (Nat × Nat) :=
  [(0x9, 0xD), (0x20, 0x20), (0x85, 0x85), (0xA0, 0xA0), (0x1680, 0x1680), (0x2000, 0x200A),
   (0x2028, 0x2029), (0x202F, 0x202F), (0x205F, 0x205F), (0x3000, 0x3000)]

def isBlank (c : Char) : Bool := ranges.any fun (lo, hi) => lo ≤ c.toNat && c.toNat ≤ hi

def skip (cs : List Char) : List Char := cs.dropWhile isBlank

def trim (s : String) : String := String.ofList (skip (skip s.toList).reverse).reverse

end FleetSizing.Blank
