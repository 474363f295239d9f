import RonWorkbench.Text.Lines
import RonWorkbench.Token

/-!
# Documents

The lines of a document are classified one after another, each from the stack that the one before
it left. The stack is all that passes from line to line, so a document can be taken up again at
any line whose stack was kept (`Document.Line.classify`).
-/

namespace RonWorkbench

namespace Document

/-- A line of a document with its tokens. -/
structure Line where
  number : Nat
  offset : Nat
  text : List Char
  tokens : List Token
  deriving Repr, DecidableEq

/-- Classify lines in order, numbering them from the given number. -/
def Line.classify : Nat → Stack → List Text.Line → List Line × Stack
  | _, s, [] => ([], s)
  | number, s, line :: more =>
    let result := tokenizeLine line.text s
    let rest := Line.classify (number + 1) result.stack more
    (⟨number, line.offset, line.text, result.tokens⟩ :: rest.1, rest.2)

end Document

/-- The classified lines of a document and the stack at its end. -/
structure Document where
  lines : List Document.Line
  stack : Stack
  deriving Repr, DecidableEq

namespace Document

/-- Classify a whole text from the empty stack. -/
def ofText (text : List Char) : Document :=
  let result := Line.classify 0 [] (Text.lines text)
  ⟨result.1, result.2⟩

/-- The innermost literal or comment that the document leaves open. -/
def unterminated? (d : Document) : Option Frame :=
  d.stack.openLiteral?

end Document

end RonWorkbench
