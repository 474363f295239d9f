import RonWorkbench.Lexeme.Basic
import RonWorkbench.Text.Blank
import RonWorkbench.Text.WordChar

/-!
# Words

A word is the longest run of ASCII letters, digits and underscores that does not start with a
digit. What it is depends on what follows: blanks and a colon make it a member name, a parenthesis
makes a capitalised one a type name. The raw mark in front of a word makes a raw name, which is a
name of a member if a colon follows and a raw identifier otherwise.
-/

namespace RonWorkbench.Lexeme

/-- Letters of ASCII. -/
def isLetter (c : Char) : Bool :=
  isCapital c || decide ('a' ≤ c ∧ c ≤ 'z')
where
  /-- Capital letters of ASCII. -/
  isCapital (c : Char) : Bool :=
    decide ('A' ≤ c ∧ c ≤ 'Z')

/-- A character that may start a word. -/
def startsWord (c : Char) : Bool :=
  isLetter c || c == '_'

/-- A character that may continue a word. -/
def continuesWord (c : Char) : Bool :=
  startsWord c || decide ('0' ≤ c ∧ c ≤ '9')

/-- The word at the start of the text. -/
def word? (rest : List Char) : Option (List Char) :=
  match rest with
  | [] => none
  | c :: _ => if startsWord c then some (rest.takeWhile continuesWord) else none

/-- The raw mark and the word behind it. -/
def rawWord? (rest : List Char) : Option (List Char) :=
  match rest with
  | 'r' :: '#' :: more => (word? more).map (rawMark ++ ·)
  | _ => none

/-- The whole name at the start of the text, the raw mark included. -/
def name? (rest : List Char) : Option (List Char) :=
  rawWord? rest <|> word? rest

/-- A name with a colon behind it, blanks between them allowed. -/
def memberName? (rest : List Char) : Option Lexeme := do
  let name ← name? rest
  let rest := rest.drop name.length
  let gap := rest.takeWhile Text.isBlank
  match rest.drop gap.length with
  | ':' :: _ => some (.memberName name gap)
  | _ => none

/-- No word character follows. -/
def endsWord (rest : List Char) : Bool :=
  match rest with
  | [] => true
  | c :: _ => !Text.isWord c

/-- A truth value that no word character follows. -/
def boolean? (rest : List Char) : Option Lexeme :=
  match rest with
  | 't' :: 'r' :: 'u' :: 'e' :: more => if endsWord more then some (.boolean true) else none
  | 'f' :: 'a' :: 'l' :: 's' :: 'e' :: more =>
    if endsWord more then some (.boolean false) else none
  | _ => none

/-- A word that starts with a capital letter. -/
def capitalWord? (rest : List Char) : Option (List Char) :=
  match rest with
  | [] => none
  | c :: _ => if isLetter.isCapital c then word? rest else none

/-- A capitalised word with a parenthesis right behind it. -/
def typeName? (rest : List Char) : Option Lexeme := do
  let name ← capitalWord? rest
  match rest.drop name.length with
  | '(' :: _ => some (.typeName name)
  | _ => none

/-- A raw name that no colon follows. -/
def rawIdentifier? (rest : List Char) : Option Lexeme :=
  match rest with
  | 'r' :: '#' :: more => (word? more).map .rawIdentifier
  | _ => none

/-- A name and what it stands for at the start of the text. -/
def named? (rest : List Char) : Option Lexeme :=
  memberName? rest <|> boolean? rest <|> typeName? rest <|> rawIdentifier? rest
    <|> (capitalWord? rest).map .variantName <|> (word? rest).map .identifier

end RonWorkbench.Lexeme
