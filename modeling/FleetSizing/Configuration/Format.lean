import FleetSizing.Configuration.Ini
import FleetSizing.Configuration.Json5
import FleetSizing.Configuration.Ron
import FleetSizing.Configuration.Toml.Document
import FleetSizing.Configuration.Yaml.Document
import FleetSizing.Json.Reader

/-! Configuration files in several notations. -/
namespace FleetSizing.Configuration

/-- Kinds of configuration files, by the extension of their name. -/
inductive Format where
  | toml | json | yaml | ini | ron | json5
  deriving DecidableEq, Repr

/-- Extensions in the order in which files are looked for. -/
def extensions : List (String × Format) :=
  [("toml", .toml), ("json", .json), ("yaml", .yaml), ("yml", .yaml), ("ini", .ini),
   ("ron", .ron), ("json5", .json5)]

mutual

/-- Numbers beyond a signed word become reals. -/
def bounded : Json Float → Json Float
  | .int n => if isSigned 64 n then .int n else .real (Float.ofInt n)
  | .list xs => .list (boundedList xs)
  | .object fields => .object (boundedFields fields)
  | j => j

def boundedList : List (Json Float) → List (Json Float)
  | [] => []
  | j :: rest => bounded j :: boundedList rest

def boundedFields : List (String × Json Float) → List (String × Json Float)
  | [] => []
  | (name, j) :: rest => (name, bounded j) :: boundedFields rest

end

/-- A JSON document whose root is an object. -/
def readJson? (s : String) : Option Table :=
  match (Json.read? s).bind Json.canonical? with
  | some (.object fields) => some (boundedFields fields)
  | _ => none

namespace Format

/-- A whole document. -/
def read? : Format → String → Option Table
  | toml => Toml.read?
  | json => readJson?
  | yaml => Yaml.read?
  | ini => Ini.read?
  | ron => Ron.read?
  | json5 => Json5.read?

/-- The settings of a file, which may start with a byte order mark. -/
def settings? (f : Format) (file : String) : Option Table :=
  match file.toList with
  | '\ufeff' :: r => f.read? (String.ofList r)
  | _ => f.read? file

end Format

end FleetSizing.Configuration
