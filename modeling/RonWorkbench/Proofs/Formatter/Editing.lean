import RonWorkbench.Formatter.Outcome
import RonWorkbench.Proofs.Text.LineIndex

/-!
# Edits as an editor applies them

An editor is told of an edit by two positions and finds them in the text that it has: it passes as
many newlines as the line says, and then as many UTF-16 units as the column says
(`Position.offset?`). It has no index of lines, and a column that leaves its line or falls into a
character is no position to it.

The position of a character boundary leads an editor back to that boundary
(`Position.offset?_endPosition`). So an edit in positions does what the edit in bytes does that it
was made from (`EditorEdit.perform?_eq`), and `Outcome.performAll?_editorEdits?` says what that is:
the output of the formatter.
-/

namespace RonWorkbench

namespace Text

/-- The position at which a text ends: its newlines, and the UTF-16 units behind the last one. -/
def endPosition (text : List Char) : Position :=
  ⟨text.count '\n', utf16Length (lastLine text)⟩

/-- Cut a text where a line starts, which is behind so many newlines. -/
def lineCut? : Nat → List Char → Option (List Char × List Char)
  | 0, text => some ([], text)
  | _ + 1, [] => none
  | n + 1, c :: text =>
    (lineCut? (if c = '\n' then n else n + 1) text).map fun cut ↦ (c :: cut.1, cut.2)

/-- Cut a text behind so many UTF-16 units of its first line. -/
def columnCut? : Nat → List Char → Option (List Char × List Char)
  | 0, text => some ([], text)
  | _ + 1, [] => none
  | n + 1, c :: text =>
    if c ≠ '\n' ∧ units16 c ≤ n + 1 then
      (columnCut? (n + 1 - units16 c) text).map fun cut ↦ (c :: cut.1, cut.2)
    else
      none

end Text

/-- The byte offset that an editor finds a position at. -/
def Position.offset? (p : Position) (text : List Char) : Option Nat := do
  let (lines, rest) ← Text.lineCut? p.line text
  let (inside, _) ← Text.columnCut? p.column rest
  return Text.byteLength (lines ++ inside)

namespace Formatter

/-- What an editor makes of a text with an edit: it replaces what stands between the positions. -/
def EditorEdit.perform? (e : EditorEdit) (text : List Char) : Option (List Char) := do
  let start ← e.start.offset? text
  let stop ← e.stop.offset? text
  TextEdit.apply? ⟨start, stop, e.newText⟩ text

/-- Edits one after another, the last one first, so that the positions of the others stay. -/
def EditorEdit.performAll? (edits : List EditorEdit) (text : List Char) : Option (List Char) :=
  edits.foldrM EditorEdit.perform? text

end Formatter

/-! ### Finding a position -/

namespace Text

/-- A text is cut into its lines up to the last one, each with its newline, and the last one. -/
theorem exists_append_lastLine (text : List Char) :
    ∃ lines, text = lines ++ lastLine text ∧ (∀ c ∈ lines.getLast?, c = '\n') ∧
      '\n' ∉ lastLine text := by
  induction text using List.reverseRecOn with
  | nil => exact ⟨[], rfl, by simp, by simp [lastLine]⟩
  | append_singleton text c ih =>
    rw [lastLine_concat]
    by_cases hc : c = '\n'
    · exact ⟨text ++ [c], by simp [hc], by simp [hc], by simp [hc]⟩
    · obtain ⟨lines, htext, hlines, hlast⟩ := ih
      refine ⟨lines, ?_, hlines, ?_⟩
      · rw [if_neg hc, ← List.append_assoc, ← htext]
      · rw [if_neg hc, List.mem_append, List.mem_singleton, not_or]
        exact ⟨hlast, Ne.symm hc⟩

theorem lineCut?_count {lines : List Char} (hlines : ∀ c ∈ lines.getLast?, c = '\n')
    (rest : List Char) :
    lineCut? (lines.count '\n') (lines ++ rest) = some (lines, rest) := by
  induction lines with
  | nil => simp [lineCut?]
  | cons c lines ih =>
    have hmore : ∀ d ∈ lines.getLast?, d = '\n' := fun d hd ↦
      hlines d (by simp [List.getLast?_cons, Option.mem_def.1 hd])
    by_cases hc : c = '\n'
    · rw [hc, List.count_cons_self, List.cons_append, lineCut?, if_pos rfl, ih hmore,
        Option.map_some]
    · -- the last of the lines has its newline, so there is one left to pass
      have hmem : '\n' ∈ lines := by
        cases hlast : lines.getLast? with
        | none =>
          obtain rfl := List.getLast?_eq_none_iff.1 hlast
          exact absurd (hlines c rfl) hc
        | some d =>
          obtain rfl := hmore d hlast
          exact List.mem_of_getLast? hlast
      obtain ⟨n, hn⟩ : ∃ n, lines.count '\n' = n + 1 :=
        Nat.exists_eq_succ_of_ne_zero (List.count_pos_iff.2 hmem).ne'
      rw [List.count_cons_of_ne hc, List.cons_append, hn, lineCut?, if_neg hc, ← hn, ih hmore,
        Option.map_some]

theorem columnCut?_utf16Length {inside : List Char} (hinside : '\n' ∉ inside)
    (rest : List Char) :
    columnCut? (utf16Length inside) (inside ++ rest) = some (inside, rest) := by
  induction inside with
  | nil => rw [utf16Length_nil, List.nil_append, columnCut?]
  | cons c inside ih =>
    rw [List.mem_cons, not_or] at hinside
    have hpos := units16_pos c
    obtain ⟨n, hn⟩ : ∃ n, units16 c + utf16Length inside = n + 1 :=
      ⟨units16 c + utf16Length inside - 1, by omega⟩
    rw [utf16Length_cons, hn, List.cons_append, columnCut?,
      if_pos ⟨Ne.symm hinside.1, by omega⟩, ← hn, Nat.add_sub_cancel_left, ih hinside.2,
      Option.map_some]

end Text

/-- **The position of a character boundary leads an editor back to it.** -/
theorem Position.offset?_endPosition (before after : List Char) :
    (Text.endPosition before).offset? (before ++ after) = some (Text.byteLength before) := by
  obtain ⟨lines, hbefore, hlines, hlast⟩ := Text.exists_append_lastLine before
  have hcount : before.count '\n' = lines.count '\n' := by
    rw [hbefore, List.count_append, List.count_eq_zero_of_not_mem hlast, Nat.add_zero]
  have hsplit : before ++ after = lines ++ (Text.lastLine before ++ after) := by
    rw [← List.append_assoc, ← hbefore]
  rw [Position.offset?, hsplit]
  show (Text.lineCut? (before.count '\n') _).bind _ = _
  rw [hcount, Text.lineCut?_count hlines, Option.bind_some]
  show (Text.columnCut? (Text.utf16Length (Text.lastLine before)) _).bind _ = _
  rw [Text.columnCut?_utf16Length hlast, Option.bind_some]
  exact congrArg (fun text ↦ some (Text.byteLength text)) hbefore.symm

namespace Formatter

/-! ### Edits in bytes and in positions -/

theorem narrowPosition_endPosition {text : List Char} (hsize : Text.byteLength text < 2 ^ 32) :
    narrowPosition (Text.endPosition text) = Text.endPosition text := by
  have hline : text.count '\n' < 2 ^ 32 :=
    (List.count_le_length.trans (Text.length_le_byteLength text)).trans_lt hsize
  have hcolumn : Text.utf16Length (Text.lastLine text) < 2 ^ 32 :=
    (Text.utf16Length_lastLine_le text).trans_lt hsize
  exact congrArg₂ Position.mk (Nat.mod_eq_of_lt hline) (Nat.mod_eq_of_lt hcolumn)

section Boundaries

variable {text before after front back : List Char} (hbefore : text = before ++ after)
  (hfront : text = front ++ back) (newText : List Char)
include hbefore hfront

/-- An edit between two character boundaries has positions. -/
theorem TextEdit.toEditor?_eq (hsize : Text.byteLength text < 2 ^ 32) :
    TextEdit.toEditor? ⟨Text.byteLength before, Text.byteLength front, newText⟩ text =
      some ⟨Text.endPosition before, Text.endPosition front, newText⟩ := by
  have hstart : (LineIndex.ofText text).position16? (Text.byteLength before) =
      some (Text.endPosition before) := by
    rw [hbefore]
    exact LineIndex.position16?_append before after
  have hstop : (LineIndex.ofText text).position16? (Text.byteLength front) =
      some (Text.endPosition front) := by
    rw [hfront]
    exact LineIndex.position16?_append front back
  have hbeforeSize : Text.byteLength before < 2 ^ 32 := by
    rw [hbefore, Text.byteLength_append] at hsize
    omega
  have hfrontSize : Text.byteLength front < 2 ^ 32 := by
    rw [hfront, Text.byteLength_append] at hsize
    omega
  simp [TextEdit.toEditor?, hstart, hstop, narrowPosition_endPosition hbeforeSize,
    narrowPosition_endPosition hfrontSize]

/-- **An edit in positions does what it does in bytes.** -/
theorem EditorEdit.perform?_eq :
    EditorEdit.perform? ⟨Text.endPosition before, Text.endPosition front, newText⟩ text =
      TextEdit.apply? ⟨Text.byteLength before, Text.byteLength front, newText⟩ text := by
  have hstart : (Text.endPosition before).offset? text = some (Text.byteLength before) := by
    rw [hbefore]
    exact Position.offset?_endPosition before after
  have hstop : (Text.endPosition front).offset? text = some (Text.byteLength front) := by
    rw [hfront]
    exact Position.offset?_endPosition front back
  simp [EditorEdit.perform?, hstart, hstop]

end Boundaries

/-- An edit from the start of a text to its end leaves the new text only. -/
theorem TextEdit.apply_whole (source newText : List Char) :
    TextEdit.apply? ⟨0, Text.byteLength source, newText⟩ source = some newText := by
  have hend := Text.splitAtByte?_byteLength source []
  rw [List.append_nil] at hend
  unfold TextEdit.apply?
  simp [Text.splitAtByte?, hend]

/-- An editor is told of a changed outcome in one edit, from the start of the text to its end. -/
theorem Outcome.editorEdits?_changed {source : List Char} (hsize : Text.byteLength source < 2 ^ 32)
    (newText : List Char) :
    (changed newText).editorEdits? source =
      some [⟨⟨0, 0⟩, Text.endPosition source, newText⟩] := by
  have hedit : TextEdit.toEditor? ⟨0, Text.byteLength source, newText⟩ source =
      some ⟨⟨0, 0⟩, Text.endPosition source, newText⟩ :=
    TextEdit.toEditor?_eq (List.nil_append source).symm (List.append_nil source).symm newText hsize
  exact congrArg (fun e ↦ e.bind fun e ↦ some [e]) hedit

/-- That edit leaves the new text only. -/
theorem EditorEdit.performAll?_whole (source newText : List Char) :
    EditorEdit.performAll? [⟨⟨0, 0⟩, Text.endPosition source, newText⟩] source = some newText := by
  have happly : EditorEdit.perform? ⟨⟨0, 0⟩, Text.endPosition source, newText⟩ source =
      some newText :=
    (EditorEdit.perform?_eq (List.nil_append source).symm (List.append_nil source).symm
      newText).trans (TextEdit.apply_whole source newText)
  simpa [EditorEdit.performAll?] using happly

/--
**The edits of an outcome give the output.** Unless the document has `2 ^ 32` bytes or more, an
editor that is told of the outcome in positions gets the output of the formatter. There is an edit
only if the output differs, and then it is one from the start of the document to its end. The edit
in bytes and the text of the outcome give the output as well.
-/
theorem Outcome.performAll?_editorEdits? {source : List Char}
    (hsize : Text.byteLength source < 2 ^ 32) (output : List Char) :
    ∃ edits, (ofOutput source output).editorEdits? source = some edits ∧
      EditorEdit.performAll? edits source = some output ∧
      (edits = [] ↔ output = source) ∧
      (output ≠ source → edits = [⟨⟨0, 0⟩, Text.endPosition source, output⟩] ∧
        (Text.endPosition source).offset? source = some (Text.byteLength source)) ∧
      (((ofOutput source output).edit? source).elim (some source) fun e ↦ e.apply? source) =
        some output ∧
      (ofOutput source output).text source = output := by
  have htext := text_ofOutput source output
  by_cases hsame : output = source
  · have houtcome : ofOutput source output = unchanged := if_pos hsame
    rw [houtcome] at htext ⊢
    refine ⟨[], rfl, ?_, by simp [hsame], fun hne ↦ absurd hsame hne, ?_, htext⟩
    · rw [hsame]
      rfl
    · rw [hsame]
      rfl
  · have houtcome : ofOutput source output = changed output := if_neg hsame
    have hend := Position.offset?_endPosition source []
    rw [List.append_nil] at hend
    rw [houtcome] at htext ⊢
    exact ⟨[⟨⟨0, 0⟩, Text.endPosition source, output⟩], editorEdits?_changed hsize output,
      EditorEdit.performAll?_whole source output, by simp [hsame], fun _ ↦ ⟨rfl, hend⟩,
      TextEdit.apply_whole source output, htext⟩

/-- A line break of two characters and a column behind a pair of UTF-16 units. -/
theorem Outcome.performAll?_editorEdits?_surrogates :
    Text.byteLength ['(', '\r', '\n', '😀', 'é', ')'] < 2 ^ 32 ∧
    (ofOutput ['(', '\r', '\n', '😀', 'é', ')'] ['(', ')', '\n']).editorEdits?
        ['(', '\r', '\n', '😀', 'é', ')'] =
      some [⟨⟨0, 0⟩, ⟨1, 4⟩, ['(', ')', '\n']⟩] ∧
    EditorEdit.performAll? [⟨⟨0, 0⟩, ⟨1, 4⟩, ['(', ')', '\n']⟩] ['(', '\r', '\n', '😀', 'é', ')'] =
      some ['(', ')', '\n'] := by
  have hsize : Text.byteLength ['(', '\r', '\n', '😀', 'é', ')'] < 2 ^ 32 := by decide
  have hposition : Text.endPosition ['(', '\r', '\n', '😀', 'é', ')'] = ⟨1, 4⟩ := by decide
  obtain ⟨edits, hedits, happly, -, hone, -⟩ :=
    Outcome.performAll?_editorEdits? hsize ['(', ')', '\n']
  obtain ⟨rfl, -⟩ := hone (by decide)
  rw [hposition] at hedits happly
  exact ⟨hsize, hedits, happly⟩

end Formatter

end RonWorkbench
