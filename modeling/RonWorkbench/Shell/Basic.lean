import RonWorkbench.Text.Utf8

/-!
# Shell scripts

Formatters are often small shell scripts, and the commands that a script is made of are the types
of this module. A word is kept as the parts that it is written in, so that what was quoted is still
known when the parts are replaced by their values.

Scripts and all that they handle are strings of bytes (`Str`), not of characters: a script can print
bytes that are no text.
-/

namespace RonWorkbench.Shell

/-- A string of bytes; each character stands for the byte of its number. -/
abbrev Str := List Char

namespace Str

/-- Bytes as a string. -/
def ofBytes (bytes : List UInt8) : Str :=
  bytes.map fun b ↦ Char.ofNat b.toNat

/-- A string as bytes. -/
def bytes (s : Str) : List UInt8 :=
  s.map fun c ↦ UInt8.ofNat c.toNat

/-- The bytes of a text. -/
def ofText (text : String) : Str :=
  ofBytes (Text.encode text.toList)

/-- The text of bytes; what is no text is replaced. -/
def text (s : Str) : String :=
  String.ofList (Text.decodeLossy (bytes s))

/-- The lines of a string, each with its line feed if it has one. -/
def lines : Str → List Str
  | [] => []
  | c :: rest =>
    if c = '\n' then
      [c] :: lines rest
    else
      match lines rest with
      | [] => [[c]]
      | first :: more => (c :: first) :: more

/-- A line without its line feed. -/
def dropNewline (line : Str) : Str :=
  if line.getLast? = some '\n' then line.dropLast else line

/-- A string without the line feeds at its end. -/
def dropNewlines (s : Str) : Str :=
  (s.reverse.dropWhile (· = '\n')).reverse

/-- A number in decimal digits. -/
def ofNat (n : Nat) : Str :=
  Nat.toDigits 10 n

/-- A number in decimal digits, with a sign if it is negative. -/
def ofInt (n : Int) : Str :=
  (toString n).toList

/-- The number that decimal digits alone make. -/
def nat? (s : Str) : Option Nat :=
  if !s.isEmpty && s.all Char.isDigit then
    some (s.foldl (fun n c ↦ 10 * n + (c.toNat - '0'.toNat)) 0)
  else
    none

/-- The number that decimal digits make, perhaps with a sign. -/
def int? : Str → Option Int
  | '-' :: s => (nat? s).map fun n ↦ -(n : Int)
  | '+' :: s => (nat? s).map Int.ofNat
  | s => (nat? s).map Int.ofNat

end Str

/-! ### Words -/

/-- What is made of a parameter's value. -/
inductive Use
  /-- The value itself. -/
  | value
  /-- Its length. -/
  | length
  /-- Another word if there is no value; an empty value counts as none if so marked. -/
  | default (orEmpty : Bool)
  /-- The same, and the other word becomes the value. -/
  | assign (orEmpty : Bool)
  /-- A fault if there is no value. -/
  | require (orEmpty : Bool)
  /-- Another word if there is a value. -/
  | instead (orEmpty : Bool)
  /-- The value without a matching start, the shortest one or the longest. -/
  | cutStart (longest : Bool)
  /-- The value without a matching end, the shortest one or the longest. -/
  | cutEnd (longest : Bool)
  deriving Repr, DecidableEq

/-- A part of a word. -/
inductive Part
  /-- Characters as they stand. -/
  | text (quoted : Bool) (s : Str)
  /-- The value of a parameter. -/
  | parameter (quoted : Bool) (name : Str) (use : Use) (word : List Part)
  /-- What a script prints. -/
  | output (quoted : Bool) (source : Str)
  /-- The value of an arithmetic expression. -/
  | arithmetic (quoted : Bool) (source : List Part)

/-- A word in parts. -/
abbrev Word := List Part

/-! ### Commands -/

/-- How a file descriptor is redirected. -/
inductive Redirection
  /-- Reads a file. -/
  | read
  /-- Writes a file anew. -/
  | write
  /-- Writes at the end of a file. -/
  | append
  /-- Reads and writes a file. -/
  | update
  /-- Stands for another descriptor. -/
  | duplicate
  /-- Reads the word itself. -/
  | document

/-- A redirected file descriptor. -/
structure Redirect where
  descriptor : Nat
  how : Redirection
  target : Word

/-- A command. -/
inductive Command
  /-- Words, after assignments and with redirections. -/
  | simple (line : Nat) (assignments : List (Str × Word)) (words : List Word)
      (redirects : List Redirect)
  /-- Commands that hand on what they print. -/
  | pipe (parts : List Command)
  /-- A command with its success reversed. -/
  | not (command : Command)
  /-- The second only if the first succeeds. -/
  | both (first second : Command)
  /-- The second only if the first fails. -/
  | either (first second : Command)
  /-- Commands one after another. -/
  | sequence (commands : List Command)
  /-- A command that is not waited for. -/
  | background (command : Command)
  /-- A command in a shell of its own. -/
  | subshell (command : Command)
  /-- A command with redirections. -/
  | redirected (line : Nat) (command : Command) (redirects : List Redirect)
  /-- The second or the third, as the first succeeds or fails. -/
  | choose (condition body otherwise : Command)
  /-- The second again and again, while the first succeeds or until it does. -/
  | loop (untilSuccess : Bool) (condition body : Command)
  /-- A command for each word, or for each argument. -/
  | each (name : Str) (words : Option (List Word)) (body : Command)
  /-- The first command with a pattern that matches. -/
  | select (word : Word) (branches : List (List Word × Command))
  /-- A command of one's own. -/
  | define (name : Str) (body : Command)

end RonWorkbench.Shell
