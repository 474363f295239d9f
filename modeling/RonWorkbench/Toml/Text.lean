import RonWorkbench.Json.Reader
import RonWorkbench.Toml.Basic

/-!
# Strings, keys and blanks of configuration files

There are four kinds of string: with escapes or literal, each on one line or over several lines.
A line break inside a string over several lines is kept as one newline, whatever it was written as,
and the one right behind the opening quotes is dropped.
-/

namespace RonWorkbench.Toml

/-- Blanks within a line. -/
def isGap (c : Char) : Bool :=
  c == ' ' || c == '\t'

/-- Drop blanks within a line. -/
def skipGap (rest : List Char) : List Char :=
  rest.dropWhile isGap

/-- A character that may stand in comments and strings: no control character but the tab. -/
def isPrintable (c : Char) : Bool :=
  c == '\t' || (decide (0x20 ≤ c.toNat) && c.toNat != 0x7F)

/-- Drop a comment up to its line break. -/
def skipComment (rest : List Char) : List Char :=
  match rest with
  | '#' :: more => more.dropWhile isPrintable
  | _ => rest

/-- A line break. -/
def lineBreak? : List Char → Option (List Char)
  | '\n' :: rest => some rest
  | '\r' :: '\n' :: rest => some rest
  | _ => none

/-- Drop blanks, comments and line breaks, at most so many of them. -/
def skipLines : Nat → List Char → List Char
  | 0, rest => rest
  | fuel + 1, rest =>
    let rest := skipComment (skipGap rest)
    match lineBreak? rest with
    | some rest => skipLines fuel rest
    | none => rest

/-- Drop blanks and line breaks, as behind a backslash at the end of a line. -/
def skipBlankLines (rest : List Char) : List Char :=
  rest.dropWhile fun c ↦ isGap c || c == '\n' || c == '\r'

/-- The number that hexadecimal digits stand for. -/
def hexValue? (ds : List Char) : Option Nat := do
  let values ← ds.mapM Json.hexDigit?
  return values.foldl (fun n d ↦ n * 16 + d) 0

/-- A character given by its number, if it is one. -/
def scalarValue? (n : Nat) : Option Char :=
  if n < 0x110000 ∧ ¬ (0xD800 ≤ n ∧ n < 0xE000) then some (Char.ofNat n) else none

/-- What the text behind a backslash stands for, and how many characters it has. -/
def escape? (rest : List Char) : Option (Char × Nat) :=
  match rest with
  | 'b' :: _ => some ('\x08', 1)
  | 't' :: _ => some ('\t', 1)
  | 'n' :: _ => some ('\n', 1)
  | 'f' :: _ => some ('\x0C', 1)
  | 'r' :: _ => some ('\r', 1)
  | '"' :: _ => some ('"', 1)
  | '\\' :: _ => some ('\\', 1)
  | 'u' :: more => (numbered? 4 more).map fun c ↦ (c, 5)
  | 'U' :: more => (numbered? 8 more).map fun c ↦ (c, 9)
  | _ => none
where
  /-- The character whose number has exactly so many digits. -/
  numbered? (count : Nat) (more : List Char) : Option Char :=
    let ds := more.take count
    if ds.length = count then (hexValue? ds).bind scalarValue? else none

/-- Stop where the given rest starts. -/
def stop {α : Type} (rest : List Char) (remark : String) : Except Stop (α × List Char) :=
  .error ⟨rest, remark⟩

/-- A string with escapes on one line, behind its opening quote. -/
def basicText : Nat → List Char → Except Stop (List Char × List Char)
  | 0, rest => stop rest ""
  | fuel + 1, rest =>
    match rest with
    | '"' :: more => .ok ([], more)
    | '\\' :: more =>
      match escape? more with
      | some (c, count) => do
        let (text, rest) ← basicText fuel (more.drop count)
        return (c :: text, rest)
      | none => stop more ""
    | c :: more =>
      if isPrintable c then do
        let (text, rest) ← basicText fuel more
        return (c :: text, rest)
      else
        stop rest ""
    | [] => stop rest ""

/-- A literal string on one line, behind its opening quote. -/
def literalText (rest : List Char) : Except Stop (List Char × List Char) :=
  let text := rest.takeWhile fun c ↦ c != '\'' && isPrintable c
  match rest.drop text.length with
  | '\'' :: more => .ok (text, more)
  | rest => stop rest ""

/-- How many of the quotes in front close a string: all but the last three are text. -/
def closingRun (quote : Char) (rest : List Char) : Nat :=
  min 5 (rest.takeWhile (· == quote)).length

/-- A string with escapes over several lines, behind its opening quotes. -/
def longBasicText : Nat → List Char → Except Stop (List Char × List Char)
  | 0, rest => stop rest ""
  | fuel + 1, rest =>
    let run := closingRun '"' rest
    if 3 ≤ run then
      .ok (List.replicate (run - 3) '"', rest.drop run)
    else
      match rest with
      | '\\' :: more =>
        match escape? more with
        | some (c, count) => do
          let (text, rest) ← longBasicText fuel (more.drop count)
          return (c :: text, rest)
        | none =>
          if (lineBreak? (skipGap more)).isSome then
            longBasicText fuel (skipBlankLines more)
          else
            stop more ""
      | '\r' :: '\n' :: more => do
        let (text, rest) ← longBasicText fuel more
        return ('\n' :: text, rest)
      | c :: more =>
        if isPrintable c || c == '\n' then do
          let (text, rest) ← longBasicText fuel more
          return (c :: text, rest)
        else
          stop rest ""
      | [] => stop rest ""

/-- A literal string over several lines, behind its opening quotes. -/
def longLiteralText : Nat → List Char → Except Stop (List Char × List Char)
  | 0, rest => stop rest ""
  | fuel + 1, rest =>
    let run := closingRun '\'' rest
    if 3 ≤ run then
      .ok (List.replicate (run - 3) '\'', rest.drop run)
    else
      match rest with
      | '\r' :: '\n' :: more => do
        let (text, rest) ← longLiteralText fuel more
        return ('\n' :: text, rest)
      | c :: more =>
        if isPrintable c || c == '\n' then do
          let (text, rest) ← longLiteralText fuel more
          return (c :: text, rest)
        else
          stop rest ""
      | [] => stop rest ""

/-- Drop the line break right behind the opening quotes. -/
def dropFirstBreak (rest : List Char) : List Char :=
  (lineBreak? rest).getD rest

/-- A string of any kind. -/
def readText (rest : List Char) : Except Stop (List Char × List Char) :=
  match rest with
  | '"' :: '"' :: '"' :: more => longBasicText (more.length + 1) (dropFirstBreak more)
  | '"' :: more => basicText (more.length + 1) more
  | '\'' :: '\'' :: '\'' :: more => longLiteralText (more.length + 1) (dropFirstBreak more)
  | '\'' :: more => literalText more
  | _ => stop rest ""

/-- A character of a key without quotes. -/
def isKeyChar (c : Char) : Bool :=
  c.isAlphanum || c == '_' || c == '-'

/-- One key, with quotes or without. -/
def readKey (rest : List Char) : Except Stop (String × List Char) :=
  match rest with
  | '"' :: more => do
    let (text, rest) ← basicText (more.length + 1) more
    return (String.ofList text, rest)
  | '\'' :: more => do
    let (text, rest) ← literalText more
    return (String.ofList text, rest)
  | _ =>
    let run := rest.takeWhile isKeyChar
    if run.isEmpty then stop rest "" else .ok (String.ofList run, rest.drop run.length)

/-- Keys with points between them, blanks around each allowed. -/
def readKeys : Nat → List Char → Except Stop (List String × List Char)
  | 0, rest => stop rest ""
  | fuel + 1, rest => do
    let (key, rest) ← readKey (skipGap rest)
    match skipGap rest with
    | '.' :: more =>
      let (keys, rest) ← readKeys fuel more
      return (key :: keys, rest)
    | rest => return ([key], rest)

end RonWorkbench.Toml
