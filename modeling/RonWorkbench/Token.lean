import RonWorkbench.Scan
import RonWorkbench.Text.Search

/-!
# Tokens

A token is a span of a line, in bytes, with its scopes. The tokens of a line are the joined pieces
of its scan laid end to end (`Token.layout`), so they cover the line from its start to its end.
-/

namespace RonWorkbench

/-- A classified span of one line; the scopes are listed outermost first. -/
structure Token where
  start : Nat
  stop : Nat
  scopes : List Scope
  deriving Repr, DecidableEq

namespace Token

/-- Lay pieces end to end from an offset. -/
def layout : Nat → List Piece → List Token
  | _, [] => []
  | offset, p :: more =>
    let next := offset + Text.byteLength p.text
    ⟨offset, next, p.scopes⟩ :: layout next more

/-- The innermost scope; a token without scopes counts as bare source. -/
def leaf (t : Token) : Scope :=
  t.scopes.getLast?.getD .source

/-- The text of a token in its line, if the token's ends are character boundaries of it. -/
def text? (t : Token) (line : List Char) : Option (List Char) :=
  Text.slice? t.start t.stop line

/-- The scope is one of the token's. -/
def hasScope (t : Token) (s : Scope) : Bool :=
  t.scopes.contains s

/-- Some scope of the token has the fragment in its name. -/
def hasScopeNamed (t : Token) (fragment : List Char) : Bool :=
  t.scopes.any fun s ↦ Text.contains fragment s.name.toList

/-- The tokens whose text is the snippet. -/
def withText (tokens : List Token) (line snippet : List Char) : List Token :=
  tokens.filter fun t ↦ t.text? line == some snippet

/-- Some token has a scope with the fragment in its name. -/
def anyHasScope (tokens : List Token) (fragment : List Char) : Bool :=
  tokens.any fun t ↦ t.hasScopeNamed fragment

/-- Some token that has the snippet in its text has a scope with the fragment in its name. -/
def anyWithTextHasScope (tokens : List Token) (line snippet fragment : List Char) : Bool :=
  tokens.any fun t ↦
    Text.contains snippet ((t.text? line).getD []) && t.hasScopeNamed fragment

/-- A token as a listing shows it. -/
def render (t : Token) (line : List Char) : List Char :=
  '[' :: ((t.text? line).getD [] ++ "] → ".toList
    ++ (", ".intercalate (t.scopes.map Scope.name)).toList)

/-- The tokens of a line as a listing shows them, one on a line of the listing. -/
def renderAll (tokens : List Token) (line : List Char) : List Char :=
  ['\n'].intercalate (tokens.map fun t ↦ t.render line)

end Token

/-- The tokens of a line and the stack for the line after it. -/
structure LineTokens where
  tokens : List Token
  stack : Stack
  deriving Repr, DecidableEq

/-- Classify a line, given without its terminator, from the stack that the line before it left. -/
def tokenizeLine (line : List Char) (s : Stack) : LineTokens :=
  let scanned := scan s line
  ⟨Token.layout 0 (Piece.join scanned.1), scanned.2.endLine⟩

/-- Spans cover a line exactly: from its start to its end, in order, without gaps, none empty. -/
def isPartition (length : Nat) : Nat → List (Nat × Nat) → Bool
  | cursor, [] => cursor == length
  | cursor, (start, stop) :: more =>
    start == cursor && decide (start < stop) && isPartition length stop more

end RonWorkbench
