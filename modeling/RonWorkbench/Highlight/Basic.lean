import RonWorkbench.Document

/-!
# Highlighting

What an editor colours: spans of a document, each of one kind. The kind of a token is decided by
its innermost scope that decides one, so the quotes of a string are string while brackets, commas
and the blanks between values have no kind. Spans of one kind that touch are one span.
-/

namespace RonWorkbench.Highlight

/-- What a span is to an editor. -/
inductive Kind
  | comment
  | string
  | escapeSequence
  | number
  | keyword
  | struct
  | enumMember
  | property
  | plainName
  | operator
  | decorator
  deriving Repr, DecidableEq

namespace Kind

/-- The kinds in the order in which an editor is told of them. -/
def legend : List Kind :=
  [comment, string, escapeSequence, number, keyword, struct, enumMember, property, plainName,
    operator, decorator]

/-- The name by which an editor knows the kind. -/
def name : Kind → String
  | comment => "comment"
  | string => "string"
  | escapeSequence => "escapeSequence"
  | number => "number"
  | keyword => "keyword"
  | struct => "struct"
  | enumMember => "enumMember"
  | property => "property"
  | plainName => "variable"
  | operator => "operator"
  | decorator => "decorator"

/-- The kind of a name. -/
def ofName? (n : String) : Option Kind :=
  legend.find? fun k ↦ k.name == n

/-- The place of a kind in the legend. -/
def index (k : Kind) : Nat :=
  legend.idxOf k

/-- The kind that a scope decides, if it decides one. -/
def ofScope? : Scope → Option Kind
  | .lineComment | .blockComment => some comment
  | .escape => some escapeSequence
  | .character | .quoted | .rawQuoted => some string
  | .hexNumber | .binaryNumber | .octalNumber | .number => some number
  | .constant => some keyword
  | .typeName => some struct
  | .variantName => some enumMember
  | .memberName => some property
  | .identifier => some plainName
  | .colon => some operator
  | .innerAttribute => some decorator
  | .source | .commentMark | .characterMark | .stringMark | .comma | .struct | .list | .map
  | .parens | .brackets | .braces | .invalid => none

/-- The kind of a token: what the innermost deciding scope says. -/
def ofScopes? (scopes : List Scope) : Option Kind :=
  scopes.reverse.findSome? ofScope?

theorem legend_getElem?_index (k : Kind) : legend[k.index]? = some k := by
  cases k <;> rfl

end Kind

/-- A stretch of a document, in bytes, with its kind. -/
structure Span where
  kind : Kind
  start : Nat
  stop : Nat
  deriving Repr, DecidableEq

namespace Span

/-- Make touching spans of one kind one span. -/
def join : List Span → List Span
  | [] => []
  | p :: more =>
    match join more with
    | [] => [p]
    | q :: rest =>
      if p.kind = q.kind ∧ p.stop = q.start then
        { p with stop := q.stop } :: rest
      else
        p :: q :: rest

/-- The span of a token of a line that starts at an offset, if the token has a kind. -/
def ofToken? (offset : Nat) (t : Token) : Option Span :=
  (Kind.ofScopes? t.scopes).map fun kind ↦ ⟨kind, offset + t.start, offset + t.stop⟩

end Span

/-- The spans of a classified document. -/
def ofDocument (d : Document) : List Span :=
  Span.join (d.lines.flatMap fun line ↦ line.tokens.filterMap (Span.ofToken? line.offset))

/-- The spans of a text. -/
def ofText (text : List Char) : List Span :=
  ofDocument (Document.ofText text)

end RonWorkbench.Highlight
