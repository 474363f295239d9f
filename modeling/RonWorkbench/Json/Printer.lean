import RonWorkbench.Decimal.Shortest
import RonWorkbench.Json.Basic

/-!
# Printing JSON

A value is printed on one line (`Json.compact`) or with one member or item a line and two blanks
per level (`Json.pretty`). In strings only the quote, the backslash and the control characters are
escaped.
-/

namespace RonWorkbench.Json

/-- One of the sixteen digits, in lower case. -/
def hexDigit (n : Nat) : Char :=
  Char.ofNat (if n < 10 then '0'.toNat + n else 'a'.toNat + (n - 10))

/-- A character as it stands in a string. -/
def escapeChar (c : Char) : List Char :=
  if c = '"' then ['\\', '"']
  else if c = '\\' then ['\\', '\\']
  else if c = '\x08' then ['\\', 'b']
  else if c = '\t' then ['\\', 't']
  else if c = '\n' then ['\\', 'n']
  else if c = '\x0C' then ['\\', 'f']
  else if c = '\r' then ['\\', 'r']
  else if c.toNat < 0x20 then
    ['\\', 'u', '0', '0', hexDigit (c.toNat / 16), hexDigit (c.toNat % 16)]
  else [c]

/-- A text between quotes. -/
def quote (text : List Char) : List Char :=
  '"' :: (text.flatMap escapeChar ++ ['"'])

/-- Floats are written out up to sixteen digits before the point and four zeros behind it. -/
def floatBounds : Decimal.Bounds := ⟨16, 4⟩

/-- The text of a float. -/
def floatText (x : Float) : String :=
  Decimal.bounded floatBounds x

/-- A value without parts. -/
def scalar : Json → List Char
  | null => "null".toList
  | bool true => "true".toList
  | bool false => "false".toList
  | integer n => (toString n).toList
  | float x => if x.isFinite then (floatText x).toList else "null".toList
  | string s => quote s.toList
  | _ => []

mutual

/-- A value on one line, without blanks. -/
def compact : Json → List Char
  | array items => '[' :: (compactItems items ++ [']'])
  | object members => '{' :: (compactMembers members ++ ['}'])
  | value => scalar value

/-- Items with commas between them. -/
def compactItems : List Json → List Char
  | [] => []
  | [item] => compact item
  | item :: more => compact item ++ ',' :: compactItems more

/-- Members with commas between them. -/
def compactMembers : List (String × Json) → List Char
  | [] => []
  | [(key, value)] => quote key.toList ++ ':' :: compact value
  | (key, value) :: more => quote key.toList ++ ':' :: compact value ++ ',' :: compactMembers more

end

/-- A line break and the indentation of a level. -/
def newLine (level : Nat) : List Char :=
  '\n' :: List.replicate (2 * level) ' '

mutual

/-- A value that starts on a line of the given level. -/
def prettyAt (level : Nat) : Json → List Char
  | array [] => ['[', ']']
  | array items => '[' :: (prettyItems (level + 1) items ++ newLine level ++ [']'])
  | object [] => ['{', '}']
  | object members => '{' :: (prettyMembers (level + 1) members ++ newLine level ++ ['}'])
  | value => scalar value

/-- Items, each on a line of its own. -/
def prettyItems (level : Nat) : List Json → List Char
  | [] => []
  | [item] => newLine level ++ prettyAt level item
  | item :: more => newLine level ++ prettyAt level item ++ ',' :: prettyItems level more

/-- Members, each on a line of its own. -/
def prettyMembers (level : Nat) : List (String × Json) → List Char
  | [] => []
  | [(key, value)] => newLine level ++ quote key.toList ++ [':', ' '] ++ prettyAt level value
  | (key, value) :: more =>
    newLine level ++ quote key.toList ++ [':', ' '] ++ prettyAt level value
      ++ ',' :: prettyMembers level more

end

/-- A value over several lines. -/
def pretty (value : Json) : List Char :=
  prettyAt 0 value

end RonWorkbench.Json
