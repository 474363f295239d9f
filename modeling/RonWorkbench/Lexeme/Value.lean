import RonWorkbench.Lexeme.Literal
import RonWorkbench.Lexeme.Word

/-!
# Value position

The readings at the top level and inside bracket groups, in their order of preference, and the
choice of the readings by the innermost open construct (`Lexeme.recognise?`). Here alone a
character may have no reading at all.
-/

namespace RonWorkbench.Lexeme

/-- A line comment, up to a newline if the text has one. -/
def lineComment? (rest : List Char) : Option Lexeme :=
  match rest with
  | '/' :: '/' :: more => some (.lineComment (more.takeWhile (· != '\n')))
  | _ => none

/-- The opener of a block comment. -/
def commentOpen? (rest : List Char) : Option Lexeme :=
  match rest with
  | '/' :: '*' :: _ => some .commentOpen
  | _ => none

/-- An attribute that is closed. -/
def innerAttribute? (rest : List Char) : Option Lexeme :=
  match rest with
  | '#' :: '!' :: '[' :: more =>
    let body := more.takeWhile (· != ']')
    match more.drop body.length with
    | ']' :: _ => some (.innerAttribute body)
    | _ => none
  | _ => none

/-- Without the mark of a byte literal, and whether there was one. -/
def splitByteMark (rest : List Char) : Bool × List Char :=
  match rest with
  | 'b' :: more => (true, more)
  | _ => (false, rest)

/-- The opener of a raw string. -/
def rawOpen? (rest : List Char) : Option Lexeme :=
  let (byte, rest) := splitByteMark rest
  match rest with
  | 'r' :: more =>
    let hashes := (more.takeWhile (· == '#')).length
    match more.drop hashes with
    | '"' :: _ => some (.rawOpen byte hashes)
    | _ => none
  | _ => none

/-- The opener of a quoted string. -/
def quoteOpen? (rest : List Char) : Option Lexeme :=
  let (byte, rest) := splitByteMark rest
  match rest with
  | '"' :: _ => some (.quoteOpen byte)
  | _ => none

/-- The opener of a character literal. -/
def characterOpen? (rest : List Char) : Option Lexeme :=
  let (byte, rest) := splitByteMark rest
  match rest with
  | '\'' :: _ => some (.characterOpen byte)
  | _ => none

/-- A comment, an attribute or the opener of a literal. -/
def opener? (rest : List Char) : Option Lexeme :=
  lineComment? rest <|> commentOpen? rest <|> innerAttribute? rest <|> rawOpen? rest
    <|> quoteOpen? rest <|> characterOpen? rest

/-- A separator or a bracket. -/
def punctuation? (rest : List Char) : Option Lexeme :=
  match rest with
  | [] => none
  | ':' :: _ => some .colon
  | ',' :: _ => some .comma
  | c :: _ => (Bracket.ofOpen? c).map .groupOpen <|> (Bracket.ofClose? c).map .groupClose

/-- The reading in value position. -/
def inValue? (rest : List Char) : Option Lexeme :=
  opener? rest <|> number? rest <|> named? rest <|> punctuation? rest

/-- The reading where the given construct is the innermost one that is open. -/
def recognise? (innermost : Option Frame) (rest : List Char) : Option Lexeme :=
  match innermost with
  | none | some (.group _) => inValue? rest
  | some (.blockComment _) => insideComment? rest
  | some (.quoted _) => insideQuoted? rest
  | some (.rawQuoted _ _) => insideRaw? rest
  | some (.character _) => insideCharacter? rest

end RonWorkbench.Lexeme
