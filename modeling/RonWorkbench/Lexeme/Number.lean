import RonWorkbench.Lexeme.Basic

/-!
# Numbers

A number starts with a digit, or with a minus and a digit. The families with a base letter are
tried before the decimal one, and each takes the longest run of its digits and underscores, which
has to hold at least one digit. A decimal number has an optional fraction and an optional exponent,
each of which counts only if a digit follows its mark.
-/

namespace RonWorkbench

namespace Lexeme

/-- Decimal digits of ASCII. -/
def isDecimalDigit (c : Char) : Bool :=
  decide ('0' ≤ c ∧ c ≤ '9')

/-- Digits of base sixteen, in either case. -/
def isHexDigit (c : Char) : Bool :=
  isDecimalDigit c || decide ('a' ≤ c ∧ c ≤ 'f') || decide ('A' ≤ c ∧ c ≤ 'F')

/-- Digits of base two. -/
def isBinaryDigit (c : Char) : Bool :=
  c == '0' || c == '1'

/-- Digits of base eight. -/
def isOctalDigit (c : Char) : Bool :=
  decide ('0' ≤ c ∧ c ≤ '7')

end Lexeme

namespace NumberFamily

/-- The digits of a family. -/
def isDigit : NumberFamily → Char → Bool
  | .hex => Lexeme.isHexDigit
  | .binary => Lexeme.isBinaryDigit
  | .octal => Lexeme.isOctalDigit
  | .decimal => Lexeme.isDecimalDigit

/-- The letter behind the zero that names a family. -/
def letter? : NumberFamily → Option Char
  | .hex => some 'x'
  | .binary => some 'b'
  | .octal => some 'o'
  | .decimal => none

end NumberFamily

namespace Lexeme

/-- The longest run of a family's digits and underscores. -/
def digitRun (family : NumberFamily) (rest : List Char) : List Char :=
  rest.takeWhile fun c ↦ family.isDigit c || c == '_'

/-- A run that starts with a decimal digit. -/
def decimalRun? (rest : List Char) : Option (List Char) :=
  match rest with
  | [] => none
  | c :: _ => if isDecimalDigit c then some (digitRun .decimal rest) else none

/-- An optional minus. -/
def minusSign (rest : List Char) : List Char :=
  match rest with
  | '-' :: _ => ['-']
  | _ => []

/-- A zero, the letter of the family and a run with at least one digit. -/
def prefixed? (family : NumberFamily) (rest : List Char) : Option (List Char) :=
  match rest with
  | '0' :: letter :: more =>
    let run := digitRun family more
    if family.letter? = some letter ∧ run.any family.isDigit then
      some ('0' :: letter :: run)
    else
      none
  | _ => none

/-- A point and a run, or nothing. -/
def fraction (rest : List Char) : List Char :=
  match rest with
  | '.' :: more => ((decimalRun? more).map ('.' :: ·)).getD []
  | _ => []

/-- An optional sign before an exponent's digits. -/
def exponentSign (rest : List Char) : List Char :=
  match rest with
  | '+' :: _ => ['+']
  | '-' :: _ => ['-']
  | _ => []

/-- An exponent mark, an optional sign and a run, or nothing. -/
def exponent (rest : List Char) : List Char :=
  match rest with
  | mark :: more =>
    if mark = 'e' ∨ mark = 'E' then
      let sign := exponentSign more
      ((decimalRun? (more.drop sign.length)).map (mark :: sign ++ ·)).getD []
    else
      []
  | [] => []

/-- A run of decimal digits, then a fraction, then an exponent. -/
def decimal? (rest : List Char) : Option (List Char) := do
  let whole ← decimalRun? rest
  let rest := rest.drop whole.length
  let part := fraction rest
  return whole ++ part ++ exponent (rest.drop part.length)

/-- The digits of a number of the given family, its sign apart. -/
def magnitude? (family : NumberFamily) (rest : List Char) : Option (List Char) :=
  match family with
  | .decimal => decimal? rest
  | _ => prefixed? family rest

/-- A number of the given family at the start of the text. -/
def numberOf? (family : NumberFamily) (rest : List Char) : Option Lexeme :=
  let sign := minusSign rest
  (magnitude? family (rest.drop sign.length)).map fun digits ↦ .number family (sign ++ digits)

/-- A number at the start of the text. -/
def number? (rest : List Char) : Option Lexeme :=
  numberOf? .hex rest <|> numberOf? .binary rest <|> numberOf? .octal rest
    <|> numberOf? .decimal rest

end Lexeme

end RonWorkbench
