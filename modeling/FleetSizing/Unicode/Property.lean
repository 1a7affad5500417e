import FleetSizing.Text.Blank
import FleetSizing.Unicode.AgeTable
import FleetSizing.Unicode.BreakTable
import FleetSizing.Unicode.Category
import FleetSizing.Unicode.PropertyTable
import FleetSizing.Unicode.Script

/-! Properties of code points: those that tables list, and those that follow from them. -/
namespace FleetSizing.Unicode

/-- A property that a table lists. -/
def property (name : String) : CodeSet := (listed? propertyRuns (looseName name)).getD .empty

def letters : CodeSet := ofCategories ["Lu", "Ll", "Lt", "Lm", "Lo", "Nl"]

def alphabetic : CodeSet := letters.union (property "Other_Alphabetic")

def lowercase : CodeSet := (ofCategory "Ll").union (property "Other_Lowercase")

def uppercase : CodeSet := (ofCategory "Lu").union (property "Other_Uppercase")

def cased : CodeSet := (lowercase.union uppercase).union (ofCategory "Lt")

def wordBreak (name : String) : CodeSet := (listed? wordBreakRuns (looseName name)).getD .empty

/-- Marks, formats, modifiers and the punctuation that may stand inside a word. -/
def caseIgnorable : CodeSet :=
  (ofCategories ["Mn", "Me", "Cf", "Lm", "Sk"]).union
    (((wordBreak "MidLetter").union (wordBreak "MidNumLet")).union (wordBreak "Single_Quote"))

def whiteSpace : CodeSet := ⟨Blank.ranges⟩

def math : CodeSet := (ofCategory "Sm").union (property "Other_Math")

/-- Characters that patterns reserve. -/
def patternReserved : CodeSet := (property "Pattern_Syntax").union (property "Pattern_White_Space")

def idStart : CodeSet := (letters.union (property "Other_ID_Start")).diff patternReserved

def idContinue : CodeSet :=
  ((idStart.union (ofCategories ["Mn", "Mc", "Nd", "Pc"])).union (property "Other_ID_Continue")).diff
    patternReserved

/-- Characters that compatibility forms keep out of identifiers. -/
def neverInIdentifiers : CodeSet :=
  ⟨[(0x37A, 0x37A), (0x309B, 0x309C), (0xFC5E, 0xFC63), (0xFDFA, 0xFDFB), (0xFE70, 0xFE70),
    (0xFE72, 0xFE72), (0xFE74, 0xFE74), (0xFE76, 0xFE76), (0xFE78, 0xFE78), (0xFE7A, 0xFE7A),
    (0xFE7C, 0xFE7C), (0xFE7E, 0xFE7E)]⟩

def xidStart : CodeSet :=
  (idStart.diff neverInIdentifiers).diff ⟨[(0xE33, 0xE33), (0xEB3, 0xEB3), (0xFF9E, 0xFF9F)]⟩

def xidContinue : CodeSet := idContinue.diff neverInIdentifiers

def defaultIgnorable : CodeSet :=
  (((property "Other_Default_Ignorable_Code_Point").union (ofCategory "Cf")).union
    (property "Variation_Selector")).diff
    ((whiteSpace.union (property "Prepended_Concatenation_Mark")).union
      ⟨[(0xFFF9, 0xFFFB), (0x13430, 0x13440)]⟩)

def graphemeExtend : CodeSet := (ofCategories ["Me", "Mn"]).union (property "Other_Grapheme_Extend")

def graphemeBase : CodeSet :=
  ((ofCategories ["Cc", "Cf", "Cs", "Co", "Cn", "Zl", "Zp"]).union graphemeExtend).complement

def decimalDigit : CodeSet := ofCategory "Nd"

/-- Letters, marks, decimal digits, connectors and joiners. -/
def word : CodeSet :=
  (alphabetic.union (ofCategories ["Mn", "Mc", "Me", "Nd", "Pc"])).union ⟨[(0x200C, 0x200D)]⟩

/-- A property that follows from others. -/
def derived? : String → Option CodeSet
  | "alphabetic" | "alpha" => some alphabetic
  | "lowercase" | "lower" => some lowercase
  | "uppercase" | "upper" => some uppercase
  | "cased" => some cased
  | "caseignorable" | "ci" => some caseIgnorable
  | "whitespace" | "wspace" | "space" => some whiteSpace
  | "math" => some math
  | "idstart" | "ids" => some idStart
  | "idcontinue" | "idc" => some idContinue
  | "xidstart" | "xids" => some xidStart
  | "xidcontinue" | "xidc" => some xidContinue
  | "defaultignorablecodepoint" | "di" => some defaultIgnorable
  | "graphemeextend" | "grext" => some graphemeExtend
  | "graphemebase" | "grbase" => some graphemeBase
  | _ => none

/-- A yes-or-no property. -/
def binary? (name : String) : Option CodeSet :=
  (derived? name).orElse fun _ => listed? propertyRuns name

/-- A property given by one name. -/
def property? (name : String) : Option CodeSet :=
  let n := looseName name
  (binary? n).orElse fun _ => (category? n).orElse fun _ => script? n

/-- Code points that a version or an earlier one assigned. -/
def assignedBy? (version : String) : Option CodeSet := do
  let n ← (ageRuns.map (·.1)).findIdx? fun names => named names version
  return CodeSet.ofRanges ((ageRuns.take (n + 1)).flatMap fun (_, runs) => (ofAlternating runs).ranges)

/-- A property given by name and value. -/
def propertyValue? (name value : String) : Option CodeSet :=
  let v := looseName value
  match looseName name with
  | "generalcategory" | "gc" => category? v
  | "script" | "sc" => script? v
  | "scriptextensions" | "scx" => scriptExtensions? v
  | "age" => assignedBy? v
  | "graphemeclusterbreak" | "gcb" => listed? graphemeBreakRuns v
  | "wordbreak" | "wb" => listed? wordBreakRuns v
  | "sentencebreak" | "sb" => listed? sentenceBreakRuns v
  | _ => none

end FleetSizing.Unicode
