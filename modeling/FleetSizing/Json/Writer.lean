import FleetSizing.Json.Value

/-! Writing JSON text. -/
namespace FleetSizing.Json

def hexDigits (n : Nat) : List Char := Nat.toDigits 16 n

/-- Quotes, backslashes and control characters are escaped; all else stands for itself. -/
def escape (c : Char) : List Char :=
  match c with
  | '"' => ['\\', '"']
  | '\\' => ['\\', '\\']
  | '\x08' => ['\\', 'b']
  | '\x0c' => ['\\', 'f']
  | '\n' => ['\\', 'n']
  | '\r' => ['\\', 'r']
  | '\t' => ['\\', 't']
  | c =>
    if c.toNat < 16 then ['\\', 'u', '0', '0', '0'] ++ hexDigits c.toNat
    else if c.toNat < 32 then ['\\', 'u', '0', '0'] ++ hexDigits c.toNat
    else [c]

def quoted (s : String) : String := "\"" ++ String.ofList (s.toList.flatMap escape) ++ "\""

def realText (x : Float) : String :=
  if x.isFinite then Decimal.document.text x else "null"

mutual

/-- On one line; numbers that are not finite are written as null. -/
def compact : Json Float → String
  | .null => "null"
  | .unreadable => "null"
  | .bool b => if b then "true" else "false"
  | .int n => if n < 0 then "-" ++ Decimal.digitText n.natAbs else Decimal.digitText n.natAbs
  | .real x => realText x
  | .text s => quoted s
  | .list xs => "[" ++ compactItems xs ++ "]"
  | .object fields => "\x7b" ++ compactFields fields ++ "\x7d"

def compactItems : List (Json Float) → String
  | [] => ""
  | [j] => compact j
  | j :: js => compact j ++ "," ++ compactItems js

def compactFields : List (String × Json Float) → String
  | [] => ""
  | [(key, j)] => quoted key ++ ":" ++ compact j
  | (key, j) :: rest => quoted key ++ ":" ++ compact j ++ "," ++ compactFields rest

end

def indent (n : Nat) : String := String.ofList ('\n' :: List.replicate (2 * n) ' ')

mutual

/-- One element a line, two blanks a level; empty containers stay closed. -/
def pretty (level : Nat) : Json Float → String
  | .list [] => "[]"
  | .list xs => "[" ++ prettyItems (level + 1) xs ++ indent level ++ "]"
  | .object [] => "\x7b\x7d"
  | .object fields => "\x7b" ++ prettyFields (level + 1) fields ++ indent level ++ "\x7d"
  | j => compact j

def prettyItems (level : Nat) : List (Json Float) → String
  | [] => ""
  | [j] => indent level ++ pretty level j
  | j :: js => indent level ++ pretty level j ++ "," ++ prettyItems level js

def prettyFields (level : Nat) : List (String × Json Float) → String
  | [] => ""
  | [(key, j)] => indent level ++ quoted key ++ ": " ++ pretty level j
  | (key, j) :: rest =>
    indent level ++ quoted key ++ ": " ++ pretty level j ++ "," ++ prettyFields level rest

end

end FleetSizing.Json
