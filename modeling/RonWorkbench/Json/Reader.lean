import RonWorkbench.Json.Number

/-!
# Reading JSON

A reader by descent over the characters of a text. The depth of the descent is bounded by the
length of the text, which `Json.parse?` supplies.
-/

namespace RonWorkbench.Json

/-- The four blanks of the format. -/
def isBlank (c : Char) : Bool :=
  c == ' ' || c == '\t' || c == '\n' || c == '\r'

/-- Drop the blanks in front. -/
def skipBlanks (rest : List Char) : List Char :=
  rest.dropWhile isBlank

/-- The value of a hexadecimal digit. -/
def hexDigit? (c : Char) : Option Nat :=
  if '0' ≤ c ∧ c ≤ '9' then some (c.toNat - '0'.toNat)
  else if 'a' ≤ c ∧ c ≤ 'f' then some (c.toNat - 'a'.toNat + 10)
  else if 'A' ≤ c ∧ c ≤ 'F' then some (c.toNat - 'A'.toNat + 10)
  else none

/-- The value of four hexadecimal digits. -/
def hexUnit? (a b c d : Char) : Option Nat := do
  let a ← hexDigit? a
  let b ← hexDigit? b
  let c ← hexDigit? c
  let d ← hexDigit? d
  return ((a * 16 + b) * 16 + c) * 16 + d

/-- The character of a unit that is no surrogate. -/
def loneUnit? (n : Nat) : Option Char :=
  if 0xD800 ≤ n ∧ n < 0xE000 then none else some (Char.ofNat n)

/-- The character of two units that are a high and a low surrogate. -/
def unitPair? (high low : Nat) : Option Char :=
  if 0xD800 ≤ high ∧ high < 0xDC00 ∧ 0xDC00 ≤ low ∧ low < 0xE000 then
    some (Char.ofNat (0x10000 + (high - 0xD800) * 0x400 + (low - 0xDC00)))
  else
    none

/-- What a single letter behind a backslash stands for. -/
def shortEscape? : Char → Option Char
  | '"' => some '"'
  | '\\' => some '\\'
  | '/' => some '/'
  | 'b' => some '\x08'
  | 'f' => some '\x0C'
  | 'n' => some '\n'
  | 'r' => some '\r'
  | 't' => some '\t'
  | _ => none

/-- A letter escape as `shortEscape?`, put in front of the rest of the string. -/
def consEscape (letter : Char) (rest : Option (List Char × List Char)) :
    Option (List Char × List Char) := do
  let c ← shortEscape? letter
  let (text, rest) ← rest
  return (c :: text, rest)

/-- The text of a string, up to its closing quote, and what follows the quote. -/
def stringBody? : List Char → Option (List Char × List Char)
  | '"' :: rest => some ([], rest)
  | '\\' :: 'u' :: a :: b :: c :: d :: '\\' :: 'u' :: e :: f :: g :: h :: rest => do
    let first ← hexUnit? a b c d
    match loneUnit? first with
    | some x =>
      let (text, rest) ← stringBody? ('\\' :: 'u' :: e :: f :: g :: h :: rest)
      return (x :: text, rest)
    | none =>
      let x ← unitPair? first (← hexUnit? e f g h)
      let (text, rest) ← stringBody? rest
      return (x :: text, rest)
  | '\\' :: 'u' :: a :: b :: c :: d :: rest => do
    let x ← loneUnit? (← hexUnit? a b c d)
    let (text, rest) ← stringBody? rest
    return (x :: text, rest)
  | '\\' :: letter :: rest => consEscape letter (stringBody? rest)
  | c :: rest => do
    if c = '\\' ∨ c.toNat < 0x20 then
      none
    let (text, rest) ← stringBody? rest
    return (c :: text, rest)
  | [] => none

/-- A word of the format at the start of a text. -/
def keyword? (word : List Char) (value : Json) (rest : List Char) : Option (Json × List Char) :=
  if word.isPrefixOf rest then some (value, rest.drop word.length) else none

mutual

/-- A value, blanks in front of it allowed, and what follows. -/
def readValue? : Nat → List Char → Option (Json × List Char)
  | 0, _ => none
  | fuel + 1, rest =>
    match skipBlanks rest with
    | '{' :: rest =>
      match skipBlanks rest with
      | '}' :: rest => some (.object [], rest)
      | rest => (readMembers? fuel rest).map fun r ↦ (.object r.1, r.2)
    | '[' :: rest =>
      match skipBlanks rest with
      | ']' :: rest => some (.array [], rest)
      | rest => (readItems? fuel rest).map fun r ↦ (.array r.1, r.2)
    | '"' :: rest => (stringBody? rest).map fun r ↦ (.string (String.ofList r.1), r.2)
    | 't' :: rest => keyword? ['r', 'u', 'e'] (.bool true) rest
    | 'f' :: rest => keyword? ['a', 'l', 's', 'e'] (.bool false) rest
    | 'n' :: rest => keyword? ['u', 'l', 'l'] .null rest
    | rest => number? rest

/-- The items of an array up to its closing bracket, at least one. -/
def readItems? : Nat → List Char → Option (List Json × List Char)
  | 0, _ => none
  | fuel + 1, rest => do
    let (item, rest) ← readValue? fuel rest
    match skipBlanks rest with
    | ',' :: rest =>
      let (more, rest) ← readItems? fuel rest
      return (item :: more, rest)
    | ']' :: rest => return ([item], rest)
    | _ => none

/-- The members of an object up to its closing brace, at least one. -/
def readMembers? : Nat → List Char → Option (List (String × Json) × List Char)
  | 0, _ => none
  | fuel + 1, rest => do
    match skipBlanks rest with
    | '"' :: rest =>
      let (key, rest) ← stringBody? rest
      match skipBlanks rest with
      | ':' :: rest =>
        let (value, rest) ← readValue? fuel rest
        match skipBlanks rest with
        | ',' :: rest =>
          let (more, rest) ← readMembers? fuel rest
          return ((String.ofList key, value) :: more, rest)
        | '}' :: rest => return ([(String.ofList key, value)], rest)
        | _ => none
      | _ => none
    | _ => none

end

/-- The value of a whole text. -/
def parse? (text : List Char) : Option Json := do
  let (value, rest) ← readValue? (2 * text.length + 2) text
  if (skipBlanks rest).isEmpty then some value else none

end RonWorkbench.Json
