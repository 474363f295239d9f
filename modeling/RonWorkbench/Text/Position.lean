import RonWorkbench.Text.Utf8

/-!
# Line and column of an offset

Tokens carry byte offsets, editors ask for lines and columns. A `LineIndex` records the offset at
which each line of a document starts; a look-up finds the last start at or before the offset by
bisection. An offset past the end stands for the end.

The column of a position is in bytes (`LineIndex.position`) or in UTF-16 units
(`LineIndex.position16?`); the latter exists only where the offset is a character boundary.
-/

namespace RonWorkbench

/-- A zero-based line and column. -/
structure Position where
  line : Nat
  column : Nat
  deriving Repr, DecidableEq

/-- Line and column with a colon between them. -/
def Position.render (p : Position) : String :=
  s!"{p.line}:{p.column}"

namespace Text

/-- The offsets just past each newline of a text that starts at the given offset. -/
def startsAfterNewlines : Nat → List Char → List Nat
  | _, [] => []
  | offset, c :: text =>
    let next := offset + c.utf8Size
    if c = '\n' then next :: startsAfterNewlines next text else startsAfterNewlines next text

/--
Bisection: the last index in `[low, high)` whose entry is at most the offset, taking for granted
that the entries increase and that the entry at `low` is at most the offset.
-/
def lastStart (starts : Array Nat) (offset low high : Nat) : Nat :=
  if low + 1 < high then
    let middle := (low + high) / 2
    if starts.getD middle 0 ≤ offset then
      lastStart starts offset middle high
    else
      lastStart starts offset low middle
  else
    low
termination_by high - low

end Text

/-- A document with the byte offsets at which its lines start. -/
structure LineIndex where
  source : List Char
  starts : Array Nat

namespace LineIndex

/-- Index a document: its first line starts at 0, every other just past a newline. -/
def ofText (source : List Char) : LineIndex :=
  ⟨source, (0 :: Text.startsAfterNewlines 0 source).toArray⟩

/-- Number of lines. -/
def lineCount (index : LineIndex) : Nat :=
  index.starts.size

/-- Offset at which a line starts, if there is such a line. -/
def lineStart? (index : LineIndex) (line : Nat) : Option Nat :=
  index.starts[line]?

/-- An offset past the end stands for the end. -/
def clamp (index : LineIndex) (offset : Nat) : Nat :=
  min offset (Text.byteLength index.source)

/-- The position of an offset, with its column in bytes. -/
def position (index : LineIndex) (offset : Nat) : Position :=
  let offset := index.clamp offset
  let line := Text.lastStart index.starts offset 0 index.starts.size
  ⟨line, offset - index.starts.getD line 0⟩

/-- The position of an offset that is a character boundary, with its column in UTF-16 units. -/
def position16? (index : LineIndex) (offset : Nat) : Option Position := do
  let p := index.position offset
  let start := index.starts.getD p.line 0
  let before ← Text.slice? start (start + p.column) index.source
  return ⟨p.line, Text.utf16Length before⟩

/-- The position just past the last character, with its column in UTF-16 units. -/
def end16? (index : LineIndex) : Option Position :=
  index.position16? (Text.byteLength index.source)

end LineIndex

end RonWorkbench
