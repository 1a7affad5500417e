import FleetSizing.Pattern.Reader

/-! Compiling patterns. How a pattern is written and what it matches is settled; how large one may get, and
what is said of a text that is refused, is up to the library that compiles it. -/
namespace FleetSizing.Pattern

/-- A library that compiles patterns. -/
structure Compiler where
  /-- Whether what a text compiles to keeps to the size limit of the library. -/
  hasRoom : List Char → Bool
  /-- What the library says of a text that it refuses, if anything. -/
  reason? : List Char → Option String

namespace Compiler

/-- Compiles a text; none if it is no pattern, or one that gets too large. -/
def compile? (compiler : Compiler) (cs : List Char) : Option Pattern :=
  (read? cs).filter fun _ => compiler.hasRoom cs

/-- A library that takes 96 bytes for every character of a text, and ten mebibytes at most. -/
def byLength : Compiler where
  hasRoom cs := 96 * cs.length ≤ 10485760
  reason? _ := some "Compiled regex exceeds size limit of 10485760 bytes."

end Compiler

end FleetSizing.Pattern
