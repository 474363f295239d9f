import RonWorkbench.Text.Utf8

/-!
# Lines of a document

A document is cut at every newline, so a final newline is followed by one more, empty, line, as
editors count. One carriage return at the end of a line belongs to its terminator and is cut off
too; it still counts in the offsets.
-/

namespace RonWorkbench.Text

/-- The stretches between the newlines, always at least one. -/
def cutAtNewlines : List Char → List (List Char)
  | [] => [[]]
  | c :: text =>
    if c = '\n' then
      [] :: cutAtNewlines text
    else
      match cutAtNewlines text with
      | [] => [[c]]
      | first :: more => (c :: first) :: more

/-- Drop one carriage return at the end. -/
def dropFinalReturn (line : List Char) : List Char :=
  if line.getLast? = some '\r' then line.dropLast else line

/-- A line of a document without its terminator, with the byte offset of its start. -/
structure Line where
  offset : Nat
  text : List Char
  deriving Repr, DecidableEq

/-- Lay raw stretches out from an offset; each is followed by one newline. -/
def Line.layout : Nat → List (List Char) → List Line
  | _, [] => []
  | offset, raw :: more =>
    ⟨offset, dropFinalReturn raw⟩ :: Line.layout (offset + byteLength raw + 1) more

/-- The lines of a text with their offsets. -/
def lines (text : List Char) : List Line :=
  Line.layout 0 (cutAtNewlines text)

theorem cutAtNewlines_ne_nil (text : List Char) : cutAtNewlines text ≠ [] := by
  cases text with
  | nil => simp [cutAtNewlines]
  | cons c text => simp only [cutAtNewlines]; split <;> (try split) <;> simp

end RonWorkbench.Text
