import RonWorkbench.Lexeme.Number

/-!
# Inside comments and literals

Inside a comment or a literal only its own delimiters and escapes are told apart from text. Every
non-empty text has a reading here: a run of ordinary characters, or one of the characters that
begin something else.
-/

namespace RonWorkbench.Lexeme

/-- A maximal run of characters that satisfy a test, if there are any. -/
def run? (test : Char → Bool) (rest : List Char) : Option (List Char) :=
  match rest.takeWhile test with
  | [] => none
  | run => some run

/-- Neither half of a comment mark. -/
def isCommentOrdinary (c : Char) : Bool :=
  c != '/' && c != '*'

/-- The reading inside a block comment. -/
def insideComment? (rest : List Char) : Option Lexeme :=
  match rest with
  | '/' :: '*' :: _ => some .commentNest
  | '*' :: '/' :: _ => some .commentUnnest
  | [] => none
  | c :: _ => some (.commentText ((run? isCommentOrdinary rest).getD [c]))

/-- One to six hexadecimal digits in braces behind a `u`. -/
def unicodeEscape? (rest : List Char) : Option (List Char) :=
  match rest with
  | 'u' :: '{' :: more =>
    let digits := more.takeWhile isHexDigit
    match more.drop digits.length with
    | '}' :: _ =>
      if 1 ≤ digits.length ∧ digits.length ≤ 6 then
        some ('u' :: '{' :: (digits ++ ['}']))
      else
        none
    | _ => none
  | _ => none

/-- Two hexadecimal digits behind an `x`. -/
def byteEscape? (rest : List Char) : Option (List Char) :=
  match rest with
  | 'x' :: a :: b :: _ => if isHexDigit a ∧ isHexDigit b then some ['x', a, b] else none
  | _ => none

/-- One character, but no newline. -/
def simpleEscape? (rest : List Char) : Option (List Char) :=
  match rest with
  | [] => none
  | c :: _ => if c = '\n' then none else some [c]

/-- What a backslash escapes: the longest form that fits, or nothing. -/
def escaped (rest : List Char) : List Char :=
  (unicodeEscape? rest <|> byteEscape? rest <|> simpleEscape? rest).getD []

/-- A backslash with what it escapes. -/
def escape? (rest : List Char) : Option Lexeme :=
  match rest with
  | '\\' :: more => some (.escape (escaped more))
  | _ => none

/-- The reading inside a quoted string. -/
def insideQuoted? (rest : List Char) : Option Lexeme :=
  match rest with
  | '"' :: _ => some .quoteClose
  | _ => escape? rest <|> (run? (fun c ↦ c != '"' && c != '\\') rest).map .quoteText

/-- The reading inside a raw string: a quote with all hashes behind it, or text. -/
def insideRaw? (rest : List Char) : Option Lexeme :=
  match rest with
  | '"' :: more => some (.rawQuote (more.takeWhile (· == '#')).length)
  | _ => (run? (· != '"') rest).map .rawText

/-- The reading inside a character literal. -/
def insideCharacter? (rest : List Char) : Option Lexeme :=
  match rest with
  | '\'' :: _ => some .characterClose
  | _ => escape? rest <|> (run? (fun c ↦ c != '\'' && c != '\\') rest).map .characterText

end RonWorkbench.Lexeme
