import RonWorkbench.Files
import RonWorkbench.Shell.Basic

/-!
# Tools

The programs that scripts call. A tool takes its arguments, an input and the files, and does its
work at once: what it prints, what it complains of, what it leaves of its input, the files as it
leaves them, its exit status and the time that it takes (`Work`).

Input and output can go on for ever, as those of `yes` do; what goes on for ever repeats itself
(`Supply`).
-/

namespace RonWorkbench.Shell

/--
Bytes, and then perhaps a string again and again. What is read from a file knows the size of the
file.
-/
structure Supply where
  bytes : Str := []
  forever : Str := []
  size : Option Nat := Option.none

namespace Supply

/-- Nothing. -/
def none : Supply := {}

/-- Some bytes of it, as many as there are up to a number. -/
def take (s : Supply) (n : Nat) : Str :=
  let missing := n - s.bytes.length
  if missing = 0 ∨ s.forever.isEmpty then
    s.bytes.take n
  else
    let rounds := missing / s.forever.length + 1
    s.bytes ++ ((List.replicate rounds s.forever).flatten.take missing)

/-- What is left behind some bytes. -/
def drop (s : Supply) (n : Nat) : Supply :=
  let missing := n - s.bytes.length
  if missing = 0 ∨ s.forever.isEmpty then
    { s with bytes := s.bytes.drop n }
  else
    { s with bytes := s.forever.drop (missing % s.forever.length) }

/-- One supply behind the other; nothing comes behind one that goes on for ever. -/
def append (s t : Supply) : Supply :=
  if s.forever.isEmpty then { t with bytes := s.bytes ++ t.bytes } else s

/-- A supply read to its end. -/
def drained (s : Supply) : Supply :=
  { size := s.size }

/-- A supply with each byte replaced. -/
def map (f : Char → Char) (s : Supply) : Supply :=
  { bytes := s.bytes.map f, forever := s.forever.map f }

/-- A supply without some bytes. -/
def filter (p : Char → Bool) (s : Supply) : Supply :=
  { bytes := s.bytes.filter p, forever := s.forever.filter p }

end Supply

/-- Where and on what a tool works. -/
structure Workplace where
  here : Path
  files : Files
  input : Supply

/-- What a tool has done. -/
structure Work where
  files : Files
  input : Supply
  output : Supply := {}
  complaints : Str := []
  status : Nat := 0
  pause : Nat := 0

namespace Workplace

/-- Work that changes nothing. -/
def idle (w : Workplace) : Work :=
  { files := w.files, input := w.input }

/-- Work that prints. -/
def prints (w : Workplace) (output : Supply) : Work :=
  { w.idle with output }

/-- Work that fails with a line of complaint. -/
def fails (w : Workplace) (complaint : Str) (status : Nat) : Work :=
  { w.idle with complaints := complaint ++ ['\n'], status }

/-- The content of a named file; a dash and `/dev/stdin` name the input. -/
def read (w : Workplace) (name : Str) : Except PathFault Supply :=
  if name = ['-'] ∨ name = "/dev/stdin".toList then
    .ok w.input
  else if name = "/dev/zero".toList then
    .ok { forever := ['\x00'] }
  else
    (w.files.read w.here (Str.text name)).map fun bytes ↦
      { bytes := Str.ofBytes bytes, size := some bytes.length }

end Workplace

/-- A tool of a script. -/
abbrev Tool := Workplace → List Str → Work

namespace Tool

/-- A name as it stands in complaints. -/
def quote (name : Str) : Str :=
  '\'' :: name ++ ['\'']

/-- A fault as it stands in complaints. -/
def describe (fault : PathFault) : Str :=
  fault.message.toList

/-- Options and operands: words that begin with a dash come first, up to a word of two dashes. -/
def splitOptions : List Str → List Str × List Str
  | [] => ([], [])
  | word :: more =>
    if word = ['-', '-'] then
      ([], more)
    else if word.head? = some '-' ∧ word ≠ ['-'] then
      let (options, operands) := splitOptions more
      (word :: options, operands)
    else
      let (options, operands) := splitOptions more
      (options, word :: operands)

/-- The letters of options that stand after single dashes. -/
def letters (options : List Str) : Str :=
  options.flatMap (List.drop 1)

/-- How an option is called that a tool does not have. -/
def unknownLetter (letter : Char) : Str :=
  "invalid option -- ".toList ++ quote [letter]

/-- A tool has none of the options of this description. -/
def unknownOption (w : Workplace) (tool : String) (what : Str) : Work :=
  w.fails
    (s!"{tool}: ".toList ++ what ++ s!"\nTry '{tool} --help' for more information.".toList) 1

/-- The first option among those given that a tool does not have. -/
def stranger? (known : String) (options : List Str) : Option Str :=
  options.findSome? fun option ↦
    match option with
    | '-' :: '-' :: _ => some ("unrecognized option ".toList ++ quote option)
    | option =>
      ((option.drop 1).find? fun c ↦ !known.toList.contains c).map unknownLetter

/-- A tool that is missing an operand. -/
def missingOperand (w : Workplace) (tool : String) : Work :=
  w.fails s!"{tool}: missing operand\nTry '{tool} --help' for more information.".toList 1

end Tool

end RonWorkbench.Shell
