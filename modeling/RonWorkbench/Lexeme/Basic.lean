import RonWorkbench.Frame
import RonWorkbench.Text.Utf8

/-!
# Lexemes

A lexeme is what one reading at a scan position recognises. Each constructor holds just the parts
that differ from one occurrence to the next, so that the text of a lexeme is computed from it
(`Lexeme.text`) and a recogniser need not carry a text beside a tag.

Two lexemes are longer than what is consumed of them or are consumed in several parts: a type name
is recognised by the parenthesis behind it, which stays for the group that it opens, and a member
name takes its colon with it.
-/

namespace RonWorkbench

/-- The four families of numbers. -/
inductive NumberFamily
  | hex
  | binary
  | octal
  | decimal
  deriving Repr, DecidableEq

/-- The leaf scope of a number. -/
def NumberFamily.scope : NumberFamily → Scope
  | hex => .hexNumber
  | binary => .binaryNumber
  | octal => .octalNumber
  | decimal => .number

/-- What is recognised at a scan position. -/
inductive Lexeme
  /-- Two slashes and the rest of the line, with the text behind the slashes. -/
  | lineComment (body : List Char)
  /-- The opener of a block comment in value position. -/
  | commentOpen
  /-- A hash, an exclamation mark and a bracketed body. -/
  | innerAttribute (body : List Char)
  /-- The opener of a raw string. -/
  | rawOpen (byte : Bool) (hashes : Nat)
  /-- The opener of a quoted string. -/
  | quoteOpen (byte : Bool)
  /-- The opener of a character literal. -/
  | characterOpen (byte : Bool)
  /-- A number of some family. -/
  | number (family : NumberFamily) (digits : List Char)
  /-- A name, the blanks behind it and a colon. -/
  | memberName (name gap : List Char)
  /-- A truth value. -/
  | boolean (value : Bool)
  /-- A capitalised name with an opening parenthesis right behind it. -/
  | typeName (name : List Char)
  /-- A name behind the raw mark. -/
  | rawIdentifier (name : List Char)
  /-- A capitalised name. -/
  | variantName (name : List Char)
  /-- Any other name. -/
  | identifier (name : List Char)
  /-- A colon on its own. -/
  | colon
  /-- A comma. -/
  | comma
  /-- An opening bracket. -/
  | groupOpen (kind : Bracket)
  /-- A closing bracket, whether or not it closes the innermost group. -/
  | groupClose (kind : Bracket)
  /-- A comment opener inside a block comment. -/
  | commentNest
  /-- A comment closer inside a block comment. -/
  | commentUnnest
  /-- Text of a block comment. -/
  | commentText (body : List Char)
  /-- A backslash with what it escapes. -/
  | escape (body : List Char)
  /-- The closer of a quoted string. -/
  | quoteClose
  /-- Text of a quoted string. -/
  | quoteText (body : List Char)
  /-- A quote inside a raw string with the hashes behind it. -/
  | rawQuote (hashes : Nat)
  /-- Text of a raw string. -/
  | rawText (body : List Char)
  /-- The closer of a character literal. -/
  | characterClose
  /-- Text of a character literal. -/
  | characterText (body : List Char)
  deriving Repr, DecidableEq

namespace Lexeme

/-- The mark of a byte literal. -/
def byteMark (byte : Bool) : List Char :=
  if byte then ['b'] else []

/-- The mark of a raw name. -/
def rawMark : List Char := ['r', '#']

/-- A run of hashes. -/
def hashRun (n : Nat) : List Char :=
  List.replicate n '#'

/-- The parts that a lexeme is recognised by, in order. -/
def parts : Lexeme → List (List Char)
  | lineComment body => ['/' :: '/' :: body]
  | commentOpen => [['/', '*']]
  | innerAttribute body => ['#' :: '!' :: '[' :: (body ++ [']'])]
  | rawOpen byte hashes => [byteMark byte ++ ['r'], hashRun hashes, ['"']]
  | quoteOpen byte => [byteMark byte ++ ['"']]
  | characterOpen byte => [byteMark byte ++ ['\'']]
  | number _ digits => [digits]
  | memberName name gap => [name, gap, [':']]
  | boolean true => [['t', 'r', 'u', 'e']]
  | boolean false => [['f', 'a', 'l', 's', 'e']]
  | typeName name => [name, ['(']]
  | rawIdentifier name => [rawMark ++ name]
  | variantName name => [name]
  | identifier name => [name]
  | colon => [[':']]
  | comma => [[',']]
  | groupOpen kind => [[kind.opener]]
  | groupClose kind => [[kind.closer]]
  | commentNest => [['/', '*']]
  | commentUnnest => [['*', '/']]
  | commentText body => [body]
  | escape body => ['\\' :: body]
  | quoteClose => [['"']]
  | quoteText body => [body]
  | rawQuote hashes => [['"'], hashRun hashes]
  | rawText body => [body]
  | characterClose => [['\'']]
  | characterText body => [body]

/-- The whole text that a lexeme is recognised by. -/
def text (x : Lexeme) : List Char :=
  x.parts.flatten

/-- The text that a lexeme takes from the line: all but the parenthesis behind a type name. -/
def consumed : Lexeme → List Char
  | typeName name => name
  | x => x.text

/-- Byte spans of consecutive parts. -/
def layoutSpans : Nat → List (List Char) → List (Nat × Nat)
  | _, [] => []
  | offset, part :: more =>
    let next := offset + Text.byteLength part
    (offset, next) :: layoutSpans next more

/--
Byte spans of the named parts of a lexeme: the mark and the hashes of a raw string, the name, the
gap and the colon of a member, the name of a type.
-/
def namedSpans (x : Lexeme) : List (Nat × Nat) :=
  let spans := layoutSpans 0 x.parts
  match x with
  | rawOpen _ _ => spans.take 2
  | memberName _ _ => spans
  | typeName _ => spans.take 1
  | rawQuote _ => spans.drop 1
  | _ => []

end Lexeme

end RonWorkbench
