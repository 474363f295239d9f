import RonWorkbench.Bits
import RonWorkbench.Json.Reader
import RonWorkbench.Toml.Basic

/-!
# Numbers, truth values and dates of configuration files

These values are read from the longest run of characters that they can consist of, and the run has
to fit one of their forms as a whole: an underscore stands only between digits, a decimal number has
no leading zero, and the parts of a date are in range. A date is kept in its normal form, with a
`T` between day and time, a capital `Z`, and no zeros at the end of the fraction.
-/

namespace RonWorkbench.Toml

/-- Characters of numbers, truth values and dates. -/
def isScalarChar (c : Char) : Bool :=
  c.isAlphanum || c == '_' || c == '+' || c == '-' || c == '.' || c == ':'

/-! ### Numbers -/

/-- The value of a digit in a base. -/
def digitValue? (base : Nat) (c : Char) : Option Nat := do
  let d ← Json.hexDigit? c
  if d < base then some d else none

/-- Drop the underscores of a run in which each stands between two digits. -/
def dropUnderscores? (base : Nat) : List Char → Option (List Nat)
  | [] => none
  | [c] => (digitValue? base c).map ([·])
  | c :: '_' :: rest => do
    let d ← digitValue? base c
    let more ← dropUnderscores? base rest
    return d :: more
  | c :: rest => do
    let d ← digitValue? base c
    let more ← dropUnderscores? base rest
    return d :: more

/-- The number that digits stand for in a base. -/
def digitsValue (base : Nat) (ds : List Nat) : Nat :=
  ds.foldl (fun n d ↦ n * base + d) 0

/-- An optional sign. -/
def splitSign : List Char → Bool × List Char
  | '-' :: rest => (true, rest)
  | '+' :: rest => (false, rest)
  | rest => (false, rest)

/-- Decimal digits without a leading zero. -/
def decimalDigits? (run : List Char) : Option (List Nat) := do
  let ds ← dropUnderscores? 10 run
  if ds.head? = some 0 ∧ 1 < ds.length then none else some ds

/-- Numbers that fit into 64 bits with a sign. -/
def word? (n : Int) : Option Toml :=
  if -(Bits.wordCount 63 : Int) ≤ n ∧ n < Bits.wordCount 63 then some (.integer n) else none

/-- A number without fraction and exponent. -/
def integer? (run : List Char) : Option Toml :=
  match run with
  | '0' :: 'x' :: digits => do word? (digitsValue 16 (← dropUnderscores? 16 digits))
  | '0' :: 'o' :: digits => do word? (digitsValue 8 (← dropUnderscores? 8 digits))
  | '0' :: 'b' :: digits => do word? (digitsValue 2 (← dropUnderscores? 2 digits))
  | _ => do
    let (negative, digits) := splitSign run
    let n := digitsValue 10 (← decimalDigits? digits)
    word? (if negative then -(n : Int) else n)

/-- The parts of a run before and behind the first exponent mark. -/
def splitExponent (run : List Char) : List Char × Option (List Char) :=
  let whole := run.takeWhile fun c ↦ c != 'e' && c != 'E'
  match run.drop whole.length with
  | [] => (whole, none)
  | _ :: exponent => (whole, some exponent)

/-- The parts of a run before and behind the first point. -/
def splitPoint (run : List Char) : List Char × Option (List Char) :=
  let whole := run.takeWhile (· != '.')
  match run.drop whole.length with
  | [] => (whole, none)
  | _ :: fraction => (whole, some fraction)

/-- A number with a fraction, an exponent or both; one that is too large is none. -/
def decimalFloat? (run : List Char) : Option Toml := do
  let (negative, magnitude) := splitSign run
  let (mantissa, exponent) := splitExponent magnitude
  let (whole, fraction) := splitPoint mantissa
  if exponent.isNone ∧ fraction.isNone then
    none
  let wholeDigits ← decimalDigits? whole
  let fractionDigits ← match fraction with
    | some f => dropUnderscores? 10 f
    | none => some []
  let exponentValue : Int ← match exponent with
    | some e =>
      let (negative, digits) := splitSign e
      (dropUnderscores? 10 digits).map fun ds ↦
        let n : Nat := ds.foldl (fun n d ↦ min 100000 (n * 10 + d)) 0
        if negative then -(n : Int) else n
    | none => some 0
  let scale := exponentValue - fractionDigits.length
  let digits := digitsValue 10 (wholeDigits ++ fractionDigits)
  let x := Float.ofScientific digits (scale < 0) scale.natAbs
  if x.isInf ∧ !negative then none else some (.float (if negative then -x else x))

/-- The floats that have names. -/
def namedFloat? (run : List Char) : Option Toml :=
  let (negative, name) := splitSign run
  if name = ['i', 'n', 'f'] then
    let x : Float := 1.0 / 0.0
    some (.float (if negative then -x else x))
  else if name = ['n', 'a', 'n'] then
    some (.float (0.0 / 0.0))
  else
    none

/-- A truth value. -/
def truth? (run : List Char) : Option Toml :=
  if run = ['t', 'r', 'u', 'e'] then some (.bool true)
  else if run = ['f', 'a', 'l', 's', 'e'] then some (.bool false)
  else none

/-! ### Dates -/

/-- Exactly so many decimal digits, in a range, and the rest. -/
def fixedDigits? (count low high : Nat) (rest : List Char) : Option (Nat × List Char) := do
  let ds ← (rest.take count).mapM (digitValue? 10)
  let n := digitsValue 10 ds
  if ds.length = count ∧ low ≤ n ∧ n ≤ high then some (n, rest.drop count) else none

/-- One given character, and the rest. -/
def fixedChar? (c : Char) : List Char → Option (List Char)
  | d :: rest => if d = c then some rest else none
  | [] => none

/-- Number of days of a month. -/
def daysIn (year month : Nat) : Nat :=
  let leap := year % 4 = 0 ∧ (year % 100 ≠ 0 ∨ year % 400 = 0)
  if month = 2 then (if leap then 29 else 28)
  else if month = 4 ∨ month = 6 ∨ month = 9 ∨ month = 11 then 30
  else 31

/-- A number with leading zeros up to a width. -/
def padded (width n : Nat) : List Char :=
  let ds := (toString n).toList
  List.replicate (width - ds.length) '0' ++ ds

/-- A day, in its normal form. -/
def day? (rest : List Char) : Option (List Char × List Char) := do
  let (year, rest) ← fixedDigits? 4 0 9999 rest
  let rest ← fixedChar? '-' rest
  let (month, rest) ← fixedDigits? 2 1 12 rest
  let rest ← fixedChar? '-' rest
  let (day, rest) ← fixedDigits? 2 1 (daysIn year month) rest
  return (padded 4 year ++ '-' :: padded 2 month ++ '-' :: padded 2 day, rest)

/-- The fraction of a second: at most nine digits count, and no zeros at the end. -/
def secondFraction? (rest : List Char) : Option (List Char × List Char) :=
  match rest with
  | '.' :: more =>
    let ds := more.takeWhile Char.isDigit
    if ds.isEmpty then
      none
    else
      let kept := ((ds.take 9).reverse.dropWhile (· == '0')).reverse
      some (if kept.isEmpty then [] else '.' :: kept, more.drop ds.length)
  | _ => some ([], rest)

/-- A time of day, in its normal form. -/
def time? (rest : List Char) : Option (List Char × List Char) := do
  let (hour, rest) ← fixedDigits? 2 0 23 rest
  let rest ← fixedChar? ':' rest
  let (minute, rest) ← fixedDigits? 2 0 59 rest
  let rest ← fixedChar? ':' rest
  let (second, rest) ← fixedDigits? 2 0 60 rest
  let (fraction, rest) ← secondFraction? rest
  return (padded 2 hour ++ ':' :: padded 2 minute ++ ':' :: padded 2 second ++ fraction, rest)

/-- The distance from universal time, in its normal form; none is allowed too. -/
def offset? (rest : List Char) : Option (List Char × List Char) :=
  match rest with
  | [] => some ([], [])
  | sign :: more =>
    if sign = 'Z' ∨ sign = 'z' then
      some (['Z'], more)
    else if sign = '+' ∨ sign = '-' then do
      let (hour, more) ← fixedDigits? 2 0 23 more
      let more ← fixedChar? ':' more
      let (minute, more) ← fixedDigits? 2 0 59 more
      let shown := if hour = 0 ∧ minute = 0 then '+' else sign
      return (shown :: padded 2 hour ++ ':' :: padded 2 minute, more)
    else
      none

/-- A day, a time, or both, in normal form. -/
def date? (run : List Char) : Option Toml :=
  match day? run with
  | some (day, []) => some (.date (String.ofList day))
  | some (day, mark :: rest) => do
    if mark ≠ 'T' ∧ mark ≠ 't' ∧ mark ≠ ' ' then
      none
    let (time, rest) ← time? rest
    let (offset, rest) ← offset? rest
    if rest.isEmpty then
      some (.date (String.ofList (day ++ 'T' :: time ++ offset)))
    else
      none
  | none => do
    let (time, rest) ← time? run
    if rest.isEmpty then some (.date (String.ofList time)) else none

/-! ### All of them -/

/-- The run of a scalar: a day may be followed by one blank and a time. -/
def scalarRun (rest : List Char) : List Char :=
  let run := rest.takeWhile isScalarChar
  match day? run, rest.drop run.length with
  | some (_, []), ' ' :: c :: more =>
    if c.isDigit then run ++ ' ' :: (c :: more).takeWhile isScalarChar else run
  | _, _ => run

/-- The scalar that a whole run stands for. -/
def scalar? (run : List Char) : Option Toml :=
  truth? run <|> namedFloat? run <|> date? run <|> integer? run <|> decimalFloat? run

end RonWorkbench.Toml
