/-! Powers that machine words and decimal notation are made of. -/
namespace FleetSizing

/-- How many values a word of so many bits has. -/
def pow2 (bits : Nat) : Nat := Nat.pow 2 bits

/-- The weight of a decimal place. -/
def pow10 (place : Nat) : Nat := Nat.pow 10 place

/-- Whether a number is a signed word. -/
def isSigned (bits : Nat) (n : Int) : Bool := -(pow2 (bits - 1) : Int) ≤ n && n < pow2 (bits - 1)

/-- The signed word that a number becomes when higher bits are lost. -/
def wrapSigned (bits : Nat) (n : Int) : Int := n.bmod (pow2 bits)

end FleetSizing
