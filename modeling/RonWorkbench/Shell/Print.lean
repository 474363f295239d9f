import RonWorkbench.Bits
import RonWorkbench.Shell.Basic

/-!
# Printing in scripts

What `echo` and `printf` print. Both know escapes after a backslash; `printf` has a format whose
directives take the arguments in turn, and which is used again as long as arguments are left.
-/

namespace RonWorkbench.Shell

/-- What was printed, what was complained of, and whether printing was cut short. -/
structure Printed where
  output : Str := []
  complaints : List Str := []
  stopped : Bool := false
  failed : Bool := false

namespace Printed

/-- Printing after printing. -/
def append (first second : Printed) : Printed :=
  { output := first.output ++ second.output
    complaints := first.complaints ++ second.complaints
    stopped := first.stopped || second.stopped
    failed := first.failed || second.failed }

end Printed

/-! ### Escapes -/

/-- The octal digits at the start of a string, up to some number of them. -/
def octalDigits : Nat → Str → Str
  | 0, _ | _, [] => []
  | n + 1, c :: rest => if '0' ≤ c ∧ c ≤ '7' then c :: octalDigits n rest else []

/-- The byte that octal digits say. -/
def octalByte (digits : Str) : Char :=
  Char.ofNat ((digits.foldl (fun n c ↦ 8 * n + (c.toNat - '0'.toNat)) 0) % 256)

/-- The byte that a letter says after a backslash. -/
def escapeByte? : Char → Option Char
  | '\\' => some '\\'
  | 'a' => some '\x07'
  | 'b' => some '\x08'
  | 'e' => some '\x1b'
  | 'f' => some '\x0c'
  | 'n' => some '\n'
  | 'r' => some '\r'
  | 't' => some '\t'
  | 'v' => some '\x0b'
  | _ => none

/-- What follows a backslash: the byte that it says and how many bytes say it. -/
def escape (s : Str) : Char × Nat :=
  match s with
  | [] => ('\\', 0)
  | c :: _ =>
    match octalDigits 3 s, escapeByte? c with
    | [], some b => (b, 1)
    | [], none => ('\\', 0)
    | digits, _ => (octalByte digits, digits.length)

/-- A string with its escapes undone; `\c` stops the printing. -/
def unescape (s : Str) : Printed :=
  match s with
  | [] => {}
  | '\\' :: 'c' :: _ => { stopped := true }
  | '\\' :: '0' :: rest =>
    let digits := octalDigits 3 rest
    let more := unescape (rest.drop digits.length)
    { more with output := octalByte digits :: more.output }
  | '\\' :: rest =>
    let (b, n) := escape rest
    let more := unescape (rest.drop n)
    { more with output := b :: more.output }
  | c :: rest =>
    let more := unescape rest
    { more with output := c :: more.output }
termination_by s.length
decreasing_by all_goals simp <;> omega

/-- What `echo` prints: its arguments with blanks between them, and a line feed unless unwanted. -/
def echo (arguments : List Str) : Str :=
  match arguments with
  | ['-', 'n'] :: words => print false words
  | words => print true words
where
  /-- Words, with a line feed behind them if it is wanted. -/
  print (newline : Bool) : List Str → Str
    | [] => if newline then ['\n'] else []
    | word :: more =>
      let p := unescape word
      if p.stopped then
        p.output
      else if more.isEmpty then
        p.output ++ (if newline then ['\n'] else [])
      else
        p.output ++ ' ' :: print newline more

/-! ### Formats -/

/-- A directive of a format. -/
structure Directive where
  flags : Str
  width : Option Nat
  precision : Option Nat
  letter : Char

namespace Directive

/-- The directive has a flag. -/
def has (d : Directive) (flag : Char) : Bool :=
  d.flags.contains flag

/-- Fill up to the width: with blanks before or behind, or with zeros after the sign. -/
def pad (d : Directive) (numeric : Bool) (sign body : Str) : Str :=
  let missing := (d.width.getD 0) - (sign.length + body.length)
  if d.has '-' then
    sign ++ body ++ List.replicate missing ' '
  else if d.has '0' && numeric && d.precision.isNone then
    sign ++ List.replicate missing '0' ++ body
  else
    List.replicate missing ' ' ++ sign ++ body

/-- A string, cut to the precision. -/
def string (d : Directive) (s : Str) : Str :=
  d.pad false [] (match d.precision with
    | some n => s.take n
    | none => s)

/-- Digits, at least as many as the precision. -/
def digits (d : Directive) (base n : Nat) : Str :=
  let s := if n = 0 ∧ d.precision = some 0 then [] else Nat.toDigits base n
  List.replicate ((d.precision.getD 1) - s.length) '0' ++ s

/-- A number with its sign. -/
def signed (d : Directive) (n : Int) : Str :=
  let sign := if n < 0 then ['-'] else if d.has '+' then ['+'] else if d.has ' ' then [' '] else []
  d.pad true sign (d.digits 10 n.natAbs)

/-- A number without a sign, in the base that the letter says. -/
def unsigned (d : Directive) (n : Int) : Str :=
  let n := (n % Bits.wordCount 64).toNat
  match d.letter with
  | 'o' => d.pad true (if d.has '#' && n ≠ 0 then ['0'] else []) (d.digits 8 n)
  | 'x' => d.pad true (if d.has '#' && n ≠ 0 then ['0', 'x'] else []) (d.digits 16 n)
  | 'X' =>
    d.pad true (if d.has '#' && n ≠ 0 then ['0', 'X'] else []) ((d.digits 16 n).map Char.toUpper)
  | _ => d.pad true [] (d.digits 10 n)

end Directive

/-- The number that an argument says, and what is complained of; an empty one says zero. -/
def argumentNumber (s : Str) : Int × List Str :=
  match s with
  | [] => (0, [])
  | '"' :: c :: _ | '\'' :: c :: _ => (c.toNat, [])
  | s =>
    let (negative, body) := match s.dropWhile fun c ↦ c = ' ' || ('\t' ≤ c && c ≤ '\r') with
      | '-' :: body => (true, body)
      | '+' :: body => (false, body)
      | body => (false, body)
    let isHex (c : Char) : Bool := c.isDigit || ('a' ≤ c.toLower && c.toLower ≤ 'f')
    let value (c : Char) : Nat :=
      if c.isDigit then c.toNat - '0'.toNat else c.toLower.toNat - 'a'.toNat + 10
    let (base, digits, behind) := match body with
      | '0' :: x :: rest =>
        if x = 'x' ∨ x = 'X' then (16, rest.takeWhile isHex, rest.dropWhile isHex)
        else
          let isOctal (c : Char) : Bool := '0' ≤ c && c ≤ '7'
          (8, body.takeWhile isOctal, body.dropWhile isOctal)
      | _ => (10, body.takeWhile Char.isDigit, body.dropWhile Char.isDigit)
    let n : Nat := digits.foldl (fun n c ↦ base * n + value c) 0
    let signed : Int := if negative then -(n : Int) else n
    if digits.isEmpty then
      (0, [s ++ ": expected numeric value".toList])
    else if behind.isEmpty then
      (signed, [])
    else
      (signed, [s ++ ": not completely converted".toList])

/-- The widest field that is filled up to. -/
def widestField : Nat := 1024 * 1024

/-- A count in a directive, which may come from the arguments, and what is complained of. -/
structure Count where
  value : Option Int
  complaints : List Str
  arguments : List Str
  rest : Str

/-- A count, which a star takes from the arguments. -/
def readCount (s : Str) (arguments : List Str) : Count :=
  match s, arguments with
  | '*' :: s, [] => ⟨some 0, [], [], s⟩
  | '*' :: s, a :: more =>
    let (n, complaints) := argumentNumber a
    ⟨some (max (-widestField) (min widestField n)), complaints, more, s⟩
  | s, arguments =>
    let digits := s.takeWhile Char.isDigit
    ⟨(Str.nat? digits).map fun n ↦ min widestField n, [], arguments, s.drop digits.length⟩

/-- A directive as it stands in a format, with the arguments and the format behind it. -/
structure ReadDirective where
  directive : Directive
  complaints : List Str
  arguments : List Str
  rest : Str

/-- The directive at the start of a string; a negative width fills up behind. -/
def readDirective (s : Str) (arguments : List Str) : ReadDirective :=
  let flags := s.takeWhile fun c ↦ "#-+ 0".toList.contains c
  let width := readCount (s.drop flags.length) arguments
  let precision := match width.rest with
    | '.' :: s =>
      let c := readCount s width.arguments
      { c with value := some (c.value.getD 0) }
    | s => ⟨none, [], width.arguments, s⟩
  let flags := if (width.value.map (decide <| · < 0)).getD false then '-' :: flags else flags
  { directive :=
      { flags
        width := width.value.map Int.natAbs
        precision := precision.value.map Int.toNat
        letter := precision.rest.head?.getD '\x00' }
    complaints := width.complaints ++ precision.complaints
    arguments := precision.arguments
    rest := precision.rest.drop 1 }

/-- A whole number from the arguments; there need not be one. -/
def takeNumber (arguments : List Str) : Int × List Str :=
  match arguments with
  | [] => (0, [])
  | a :: _ => argumentNumber a

/-- A format used once: what is printed, the arguments that are left, and whether any was wanted. -/
def formatOnce (fuel : Nat) (format : Str) (arguments : List Str) : Printed × List Str × Bool :=
  match fuel with
  | 0 => ({}, arguments, false)
  | fuel + 1 =>
    match format with
    | [] => ({}, arguments, false)
    | '\\' :: rest =>
      let (b, n) := escape rest
      let (p, arguments, used) := formatOnce fuel (rest.drop n) arguments
      (Printed.append { output := [b] } p, arguments, used)
    | '%' :: '%' :: rest =>
      let (p, arguments, used) := formatOnce fuel rest arguments
      (Printed.append { output := ['%'] } p, arguments, used)
    | '%' :: rest =>
      let r := readDirective rest arguments
      let d := r.directive
      let arguments := r.arguments
      let printed : Option Printed := match d.letter with
        | 's' => some { output := d.string (arguments.head?.getD []) }
        | 'b' =>
          let p := unescape (arguments.head?.getD [])
          some { p with output := d.string p.output }
        | 'c' => some { output := d.string [((arguments.head?.bind List.head?).getD '\x00')] }
        | 'd' | 'i' =>
          let (n, complaints) := takeNumber arguments
          some { output := d.signed n, complaints, failed := !complaints.isEmpty }
        | 'o' | 'u' | 'x' | 'X' =>
          let (n, complaints) := takeNumber arguments
          some { output := d.unsigned n, complaints, failed := !complaints.isEmpty }
        | _ => none
      match printed with
      | none =>
        if d.letter = '\x00' then
          ({ complaints := ["missing format character".toList], stopped := true, failed := true },
            [], true)
        else
          let directive := '%' :: rest.take (rest.length - r.rest.length)
          ({ complaints := [directive ++ ": invalid directive".toList]
             stopped := true, failed := true }, [], true)
      | some p =>
        if p.stopped then
          (p, [], true)
        else
          let p := { p with
            complaints := r.complaints ++ p.complaints
            failed := p.failed || !r.complaints.isEmpty }
          let (q, arguments, _) := formatOnce fuel r.rest (arguments.drop 1)
          (p.append q, arguments, true)
    | c :: rest =>
      let (p, arguments, used) := formatOnce fuel rest arguments
      (Printed.append { output := [c] } p, arguments, used)

/-- A format used as long as arguments are left that it takes. -/
def formatAll (fuel : Nat) (format : Str) (arguments : List Str) : Printed :=
  match fuel with
  | 0 => {}
  | fuel + 1 =>
    let (p, left, used) := formatOnce (format.length + 1) format arguments
    if p.stopped || left.isEmpty || !used then p else p.append (formatAll fuel format left)

/-- What `printf` prints for a format and arguments. -/
def printf (format : Str) (arguments : List Str) : Printed :=
  formatAll (arguments.length + 1) format arguments

end RonWorkbench.Shell
