import RonWorkbench.Bits
import RonWorkbench.Highlight.Basic
import RonWorkbench.Text.Position

/-!
# Spans relative to each other

An editor is sent each span as five 32-bit words: the number of lines since the span before it, its
column (counted from that span's start if both are on one line), its length, the place of its kind
in the legend and a zero. Columns and lengths are in UTF-16 units.

`Relative.decode` is the reading of an editor: a step to another line starts the columns afresh.
-/

namespace RonWorkbench.Highlight

/-- A count as a 32-bit word. -/
def toWord (n : Nat) : Nat :=
  n % Bits.wordCount 32

/-- A span as sent: relative to the one before it. -/
structure Relative where
  deltaLine : Nat
  deltaStart : Nat
  length : Nat
  kindIndex : Nat
  deriving Repr, DecidableEq

/-- A span with its place in lines and UTF-16 units. -/
structure Placed where
  kind : Kind
  line : Nat
  column : Nat
  length : Nat
  deriving Repr, DecidableEq

/-- Where a span is, if both its ends are character boundaries; a negative length counts as none. -/
def Span.place? (index : LineIndex) (s : Span) : Option Placed := do
  let start ← index.position16? s.start
  let stop ← index.position16? s.stop
  return ⟨s.kind, toWord start.line, toWord start.column, toWord (stop.column - start.column)⟩

namespace Relative

/-- Write spans relative to the one before them, the first to the given line and column. -/
def ofPlaced : Nat → Nat → List Placed → List Relative
  | _, _, [] => []
  | line, column, p :: more =>
    if p.length = 0 then
      ofPlaced line column more
    else
      let deltaLine := p.line - line
      let deltaStart := if deltaLine = 0 then p.column - column else p.column
      ⟨deltaLine, deltaStart, p.length, p.kind.index⟩ :: ofPlaced p.line p.column more

/-- The spans of a text as sent; spans without length are not sent. -/
def encode? (text : List Char) (spans : List Span) : Option (List Relative) := do
  let index := LineIndex.ofText text
  let placed ← spans.mapM (Span.place? index)
  return ofPlaced 0 0 placed

/-- The five words of each span in a row. -/
def flatten (items : List Relative) : List Nat :=
  items.flatMap fun r ↦ [r.deltaLine, r.deltaStart, r.length, r.kindIndex, 0]

/-- What an editor reads: places from the differences, starting at the given line and column. -/
def decode : Nat → Nat → List Relative → List Placed
  | _, _, [] => []
  | line, column, r :: more =>
    let nextLine := line + r.deltaLine
    let nextColumn := if r.deltaLine = 0 then column + r.deltaStart else r.deltaStart
    ⟨(Kind.legend[r.kindIndex]?).getD .comment, nextLine, nextColumn, r.length⟩
      :: decode nextLine nextColumn more

end Relative

end RonWorkbench.Highlight
