import FleetSizing.Unicode.CategoryTable
import FleetSizing.Unicode.Runs

/-! General categories of code points. -/
namespace FleetSizing.Unicode

def categories : List (String × Nat × Nat) := tagged 0 (tableWords categoryRuns)

/-- Code points of any of the categories. -/
def ofCategories (tags : List String) : CodeSet := select categories tags.contains

/-- Names of the categories; those of one letter hold all that start with it. -/
def categoryNames : List (String × List String) :=
  [("C", ["other"]), ("Cc", ["control", "cntrl"]), ("Cf", ["format"]), ("Cn", ["unassigned"]),
   ("Co", ["privateuse"]), ("L", ["letter"]), ("LC", ["casedletter"]), ("Ll", ["lowercaseletter"]),
   ("Lm", ["modifierletter"]), ("Lo", ["otherletter"]), ("Lt", ["titlecaseletter"]),
   ("Lu", ["uppercaseletter"]), ("M", ["mark", "combiningmark"]), ("Mc", ["spacingmark"]),
   ("Me", ["enclosingmark"]), ("Mn", ["nonspacingmark"]), ("N", ["number"]),
   ("Nd", ["decimalnumber", "digit"]), ("Nl", ["letternumber"]), ("No", ["othernumber"]),
   ("P", ["punctuation", "punct"]), ("Pc", ["connectorpunctuation"]), ("Pd", ["dashpunctuation"]),
   ("Pe", ["closepunctuation"]), ("Pf", ["finalpunctuation"]), ("Pi", ["initialpunctuation"]),
   ("Po", ["otherpunctuation"]), ("Ps", ["openpunctuation"]), ("S", ["symbol"]),
   ("Sc", ["currencysymbol"]), ("Sk", ["modifiersymbol"]), ("Sm", ["mathsymbol"]),
   ("So", ["othersymbol"]), ("Z", ["separator"]), ("Zl", ["lineseparator"]),
   ("Zp", ["paragraphseparator"]), ("Zs", ["spaceseparator"])]

def ofCategory (tag : String) : CodeSet :=
  if tag == "LC" then ofCategories ["Lu", "Ll", "Lt"]
  else if tag.length == 1 then select categories fun t => t.toList.take 1 == tag.toList
  else ofCategories [tag]

/-- A general category, by either name, or one of the sets named beside them. -/
def category? (name : String) : Option CodeSet :=
  match categoryNames.find? fun (tag, names) => looseName tag == name || names.contains name with
  | some (tag, _) => some (ofCategory tag)
  | none =>
    match name with
    | "any" => some CodeSet.all
    | "ascii" => some (CodeSet.range 0 127)
    | "assigned" => some (ofCategory "Cn").complement
    | _ => none

end FleetSizing.Unicode
