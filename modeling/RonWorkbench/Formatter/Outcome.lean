import RonWorkbench.Bits
import RonWorkbench.Text.Position

/-!
# From formatter output to an edit

A formatter prints the whole document anew, so a result that differs is one edit that replaces all
of the text, and a result that does not is none. `TextEdit.apply?` is what a host does with an edit.

An editor is told of an edit by lines and UTF-16 columns (`EditorEdit`).
-/

namespace RonWorkbench.Formatter

/-- Replace the bytes between two offsets. -/
structure TextEdit where
  start : Nat
  stop : Nat
  newText : List Char
  deriving Repr, DecidableEq

/-- The text with the edit applied, if the edit's ends are character boundaries in order. -/
def TextEdit.apply? (e : TextEdit) (text : List Char) : Option (List Char) :=
  if e.start ≤ e.stop then do
    let (before, _) ← Text.splitAtByte? e.start text
    let (_, after) ← Text.splitAtByte? e.stop text
    return before ++ e.newText ++ after
  else
    none

/-- What a run made of the document. -/
inductive Outcome
  | changed (text : List Char)
  | unchanged
  deriving Repr, DecidableEq

namespace Outcome

/-- Compare the output of a run with the document. -/
def ofOutput (source output : List Char) : Outcome :=
  if output = source then unchanged else changed output

/-- The document differs from the result. -/
def isChanged : Outcome → Bool
  | changed _ => true
  | unchanged => false

/-- The edit that gives the result: all of the document, or none. -/
def edit? (o : Outcome) (source : List Char) : Option TextEdit :=
  match o with
  | changed text => some ⟨0, Text.byteLength source, text⟩
  | unchanged => none

/-- The text of the result. -/
def text (o : Outcome) (source : List Char) : List Char :=
  match o with
  | changed text => text
  | unchanged => source

theorem text_ofOutput (source output : List Char) :
    (ofOutput source output).text source = output := by
  unfold ofOutput
  split <;> simp_all [text]

end Outcome

/-! ### Edits as an editor is told of them -/

/-- Replace the text between two positions, with columns in UTF-16 units; all are 32-bit words. -/
structure EditorEdit where
  start : Position
  stop : Position
  newText : List Char
  deriving Repr, DecidableEq

/-- The parts of a position as 32-bit words. -/
def narrowPosition (p : Position) : Position :=
  ⟨p.line % Bits.wordCount 32, p.column % Bits.wordCount 32⟩

/-- An edit in lines and columns, if its ends are character boundaries of the text. -/
def TextEdit.toEditor? (e : TextEdit) (text : List Char) : Option EditorEdit := do
  let index := LineIndex.ofText text
  let start ← index.position16? e.start
  let stop ← index.position16? e.stop
  return ⟨narrowPosition start, narrowPosition stop, e.newText⟩

/-- The edits of an outcome as an editor is told of them. -/
def Outcome.editorEdits? (o : Outcome) (source : List Char) : Option (List EditorEdit) :=
  (o.edit? source).toList.mapM fun e ↦ e.toEditor? source

end RonWorkbench.Formatter
