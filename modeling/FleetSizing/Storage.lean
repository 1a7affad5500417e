import FleetSizing.Keyed

/-! Files by their paths: how a program reaches them, and a directory held in memory. -/
namespace FleetSizing

/-- How files are reached. -/
structure Storage (m : Type → Type) where
  /-- Whether a path leads to a file. -/
  isFile : String → m Bool
  /-- The text of a file; none if it cannot be read. -/
  read? : String → m (Option String)
  /-- Puts text in the place of a file; false if it cannot be written. -/
  write : String → String → m Bool

structure File where
  /-- The names of the directories around it, and its own. -/
  path : List String
  text : String
  deriving DecidableEq, Repr, Inhabited

/-- Files below one directory; a directory is there if there is a file in it. -/
abbrev Directory := Keyed File.path

namespace Directory

def splitPath (s : String) : List String :=
  (s.toList.foldr (fun c (parts : List (List Char)) =>
    match c, parts with
    | '/', parts => [] :: parts
    | c, part :: parts => (c :: part) :: parts
    | c, [] => [[c]]) [[]]).map String.ofList

/-- The names on a path; none if it leaves the directory or has no file name at its end. -/
def names? (s : String) : Option (List String) :=
  let parts := splitPath s
  let isName (p : String) : Bool := !(["", ".", ".."].contains p) && !p.contains '\x00'
  if parts.head? = some "" ∨ parts.contains ".." ∨ ¬ parts.getLast?.any isName then none
  else some (parts.filter isName)

def hasDirectory (d : Directory) (path : List String) : Bool :=
  path.isEmpty || d.values.any fun f => path.isPrefixOf f.path && path != f.path

/-- The text of a file. -/
def read? (d : Directory) (path : String) : Option String := do
  return (← d.get? (← names? path)).text

/-- The directory with a file put into it; directories around a file have to be there. -/
def write? (d : Directory) (path text : String) : Option Directory := do
  let names ← names? path
  if d.hasDirectory names.dropLast ∧ ¬ d.hasDirectory names then return d.insert ⟨names, text⟩
  else none

/-- A program that works on a directory alone. -/
def storage : Storage (StateM Directory) where
  isFile path := return ((← get).read? path).isSome
  read? path := return (← get).read? path
  write path text := do
    match (← get).write? path text with
    | some d => set d; return true
    | none => return false

end Directory

end FleetSizing
