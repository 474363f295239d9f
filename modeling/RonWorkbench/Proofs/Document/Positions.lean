import RonWorkbench.Proofs.Document.Bounds
import RonWorkbench.Proofs.Text.Position

/-!
# Positions in the lines of a document

A text is parted into lines in two ways: by cutting it at the newlines, with an offset that is
carried along (`Text.lines`), and by noting where each newline ends, to be searched later
(`LineIndex`). Both find the same lines at the same offsets (`LineIndex.starts_eq`). The one may
drop a carriage return at the end of a line, which the other knows nothing of; but no line starts
before the terminator of the line in front, so the offsets of a line have it for their line wherever
its text ends (`LineIndex.position_add_of_getElem?`).

A token is a stretch of its line. So the place that the index tells for an end of a token is the
line of the token, and in it the end that the token has (`Document.lines_match_lineIndex`).
-/

namespace RonWorkbench

namespace Text

/-- Where a text starts is carried along and not looked at. -/
theorem startsAfterNewlines_add (offset bytes : Nat) (text : List Char) :
    startsAfterNewlines (offset + bytes) text =
      (startsAfterNewlines offset text).map (· + bytes) := by
  induction text generalizing offset with
  | nil => rfl
  | cons c text ih =>
    have hnext : offset + bytes + c.utf8Size = offset + c.utf8Size + bytes := by omega
    rw [startsAfterNewlines, startsAfterNewlines, hnext, ih]
    split <;> rfl

theorem startsAfterNewlines_of_notMem {text : List Char} (h : '\n' ∉ text) (offset : Nat) :
    startsAfterNewlines offset text = [] := by
  rw [← List.length_eq_zero_iff, length_startsAfterNewlines, List.count_eq_zero.2 h]

/-- **The offsets of the lines are the starts that a scan for newlines finds.** -/
theorem map_offset_lines (text : List Char) :
    (lines text).map Line.offset = 0 :: startsAfterNewlines 0 text := by
  induction text using lineInduction with
  | one a ha => rw [lines_of_notMem ha, startsAfterNewlines_of_notMem ha, List.map_singleton]
  | more a b ha ih =>
    have hshift : ((lines b).map (Line.shift (byteLength a + 1))).map Line.offset =
        ((lines b).map Line.offset).map (· + (byteLength a + 1)) := by
      rw [List.map_map, List.map_map]
      rfl
    -- the starts in the second text are moved behind the newline, just as its lines are
    have hnewline : startsAfterNewlines (0 + byteLength a) ('\n' :: b) =
        (0 :: startsAfterNewlines 0 b).map (· + (byteLength a + 1)) := by
      rw [List.map_cons, ← startsAfterNewlines_add, startsAfterNewlines, if_pos rfl]
      simp only [Nat.zero_add]
      rfl
    rw [lines_append_newline, lines_of_notMem ha, List.map_append, hshift, ih,
      startsAfterNewlines_append, startsAfterNewlines_of_notMem ha, hnewline]
    rfl

end Text

namespace LineIndex

open Text

section Source

variable (source : List Char)

/-- The index has the offsets of the lines. -/
theorem starts_eq : (ofText source).starts = ((lines source).map Line.offset).toArray := by
  rw [map_offset_lines]
  rfl

/-- **There are as many lines as the index counts.** -/
theorem lineCount_eq : (ofText source).lineCount = (lines source).length := by
  rw [lineCount, starts_eq, List.size_toArray, List.length_map]

/-- **Each line starts where the index says.** -/
theorem lineStart?_eq (i : Nat) :
    (ofText source).lineStart? i = (lines source)[i]?.map Line.offset := by
  rw [lineStart?, starts_eq, List.getElem?_toArray, List.getElem?_map]

end Source

variable {source : List Char} {i k : Nat} {line : Line}

theorem getD_starts_of_getElem? (h : (lines source)[i]? = some line) :
    (ofText source).starts.getD i 0 = line.offset := by
  rw [Array.getD_eq_getD_getElem?, ← lineStart?, lineStart?_eq, h, Option.map_some,
    Option.getD_some]

/-- The text of a line has come to its end where a later line starts. -/
theorem add_lt_getD_starts (h : (lines source)[i]? = some line) {j : Nat} (hij : i < j)
    (hj : j < (ofText source).starts.size) :
    line.offset + byteLength line.text < (ofText source).starts.getD j 0 := by
  rw [starts_eq, List.size_toArray, List.length_map] at hj
  obtain ⟨hi, rfl⟩ := List.getElem?_eq_some_iff.1 h
  rw [getD_starts_of_getElem? (List.getElem?_eq_getElem hj)]
  exact List.pairwise_iff_getElem.1 (pairwise_lines source) i j hi hj hij

/-- **An offset in a line, or at its end, has the line and its place there for its position.** -/
theorem position_add_of_getElem? (h : (lines source)[i]? = some line)
    (hk : k ≤ byteLength line.text) : (ofText source).position (line.offset + k) = ⟨i, k⟩ := by
  obtain ⟨before, after, htext, hoffset, -⟩ := exists_append_of_mem_lines (List.mem_of_getElem? h)
  have hend : line.offset + k ≤ byteLength source := by
    rw [htext, byteLength_append, byteLength_append, hoffset]
    omega
  have hclamp := clamp_of_le source hend
  have hsize := line_lt_size source (line.offset + k)
  have hcolumn := getD_starts_add_column source (line.offset + k)
  have hstart := getD_starts_of_getElem? h
  have hi : i < (ofText source).starts.size := by
    rw [starts_eq, List.size_toArray, List.length_map]
    exact (List.getElem?_eq_some_iff.1 h).1
  -- The offset is not behind the start of any later line, and behind that of its own.
  have hline : ((ofText source).position (line.offset + k)).line = i := by
    refine Nat.le_antisymm ?_ ((getD_starts_le_iff source _ hi).1 (by omega))
    by_contra hlt
    have hlater := add_lt_getD_starts h (Nat.lt_of_not_le hlt) hsize
    omega
  rw [hline, hstart, hclamp] at hcolumn
  generalize (ofText source).position (line.offset + k) = p at hline hcolumn ⊢
  obtain ⟨l, column⟩ := p
  obtain rfl : l = i := hline
  obtain rfl : column = k := Nat.add_left_cancel hcolumn
  rfl

end LineIndex

namespace Document

theorem getElem?_lines_of_getElem? {text : List Char} {i : Nat} {line : Line}
    (h : (ofText text).lines[i]? = some line) : (Text.lines text)[i]? = some line.bare := by
  rw [← map_bare_lines, List.getElem?_map, h, Option.map_some]

/--
**The lines of a document are those of the line index.** There are as many, each starts where the
index says and has no newline, and the index finds both ends of each token in the line of the token,
at the columns that the token has there.
-/
theorem lines_match_lineIndex (text : List Char) :
    (Text.lines text).length = (LineIndex.ofText text).lineCount ∧
    (∀ i, (Text.lines text)[i]?.map Text.Line.offset = (LineIndex.ofText text).lineStart? i) ∧
    (∀ line ∈ Text.lines text, '\n' ∉ line.text) ∧
    ∀ i line, (ofText text).lines[i]? = some line → ∀ t ∈ line.tokens,
      (LineIndex.ofText text).position (line.offset + t.start) = ⟨i, t.start⟩ ∧
      (LineIndex.ofText text).position (line.offset + t.stop) = ⟨i, t.stop⟩ := by
  refine ⟨(LineIndex.lineCount_eq text).symm, fun i ↦ (LineIndex.lineStart?_eq text i).symm,
    fun line hline ↦ ?_, fun i line hline t ht ↦ ?_⟩
  · obtain ⟨before, after, -, -, hnewline⟩ := Text.exists_append_of_mem_lines hline
    exact hnewline
  · have hmem := List.mem_of_getElem? hline
    have hbare := getElem?_lines_of_getElem? hline
    have hstop : t.stop ≤ Text.byteLength line.text := stop_le_of_mem_tokens hmem ht
    have hstart : t.start ≤ Text.byteLength line.text :=
      (start_lt_stop_of_mem_tokens hmem ht).le.trans hstop
    exact ⟨LineIndex.position_add_of_getElem? hbare hstart,
      LineIndex.position_add_of_getElem? hbare hstop⟩

/-- The number behind two kinds of terminators, and a character of two bytes, is on line 2. -/
theorem lines_match_lineIndex_terminators :
    (ofText ['é', '\r', '\n', '\n', 'é', '1', '\r']).lines[2]? =
      some ⟨2, 5, ['é', '1'], [⟨0, 2, [.source]⟩, ⟨2, 3, [.source, .number]⟩]⟩ ∧
    (LineIndex.ofText ['é', '\r', '\n', '\n', 'é', '1', '\r']).position 7 = ⟨2, 2⟩ ∧
    (LineIndex.ofText ['é', '\r', '\n', '\n', 'é', '1', '\r']).position 8 = ⟨2, 3⟩ := by
  have hline : (ofText ['é', '\r', '\n', '\n', 'é', '1', '\r']).lines[2]? =
      some ⟨2, 5, ['é', '1'], [⟨0, 2, [.source]⟩, ⟨2, 3, [.source, .number]⟩]⟩ := by
    decide +kernel
  exact ⟨hline, (lines_match_lineIndex _).2.2.2 2 _ hline ⟨2, 3, [.source, .number]⟩ (by simp)⟩

end Document

end RonWorkbench
