import Mathlib.Data.List.TakeWhile
import RonWorkbench.Proofs.Text.Cut
import RonWorkbench.Text.Lines

/-!
# The lines of a text

Cutting a text into lines turns a newline into a seam: the lines of `a ++ '\n' :: b` are the lines
of `a`, followed by the lines of `b` moved past `a` and the newline (`lines_append_newline`). A
carriage return in front of the seam changes nothing, because it is cut off at the end of a text
just as it is in front of a newline.

With the lines of a text without newlines that is all there is to know, and `lineInduction` is the
induction that goes with it. By it each line is found at its offset in the text
(`exists_append_of_mem_lines`), and the lines are found one behind the other
(`pairwise_lines`).

What is marked in a text never crosses the end of a line: it is a stretch (`IsStretch`), and
stretches that touch make up one stretch.
-/

namespace RonWorkbench.Text

/-! ### Cutting -/

/-- **A newline is a seam.** -/
theorem cutAtNewlines_append_newline (a b : List Char) :
    cutAtNewlines (a ++ '\n' :: b) = cutAtNewlines a ++ cutAtNewlines b := by
  induction a with
  | nil => simp [cutAtNewlines]
  | cons c a ih =>
    by_cases hc : c = '\n'
    · simp [cutAtNewlines, hc, ih]
    · obtain ⟨first, more, hcut⟩ := List.exists_cons_of_ne_nil (cutAtNewlines_ne_nil a)
      simp [cutAtNewlines, hc, ih, hcut]

theorem cutAtNewlines_of_notMem {a : List Char} (h : '\n' ∉ a) : cutAtNewlines a = [a] := by
  induction a with
  | nil => rfl
  | cons c a ih =>
    obtain ⟨hc, ha⟩ := not_or.1 (List.mem_cons.not.1 h)
    simp [cutAtNewlines, Ne.symm hc, ih ha]

/-- Induction along the lines of a text: one line, or one more line in front of others. -/
theorem lineInduction {P : List Char → Prop} (one : ∀ a, '\n' ∉ a → P a)
    (more : ∀ a b, '\n' ∉ a → P b → P (a ++ '\n' :: b)) (text : List Char) : P text := by
  -- By recursion on the text behind the first newline.
  have hfront : '\n' ∉ text.takeWhile (· != '\n') :=
    fun h ↦ by simpa using List.mem_takeWhile_imp h
  have htext : text.takeWhile (· != '\n') ++ text.dropWhile (· != '\n') = text :=
    List.takeWhile_append_dropWhile
  cases hback : text.dropWhile (· != '\n') with
  | nil =>
    rw [hback, List.append_nil] at htext
    exact htext ▸ one _ hfront
  | cons c b =>
    have hc : c = '\n' := by
      have hhead := List.head?_dropWhile_not (· != '\n') text
      rw [hback] at hhead
      simpa using hhead
    subst hc
    rw [hback] at htext
    have hlt : b.length < text.length := by
      have hlen := congrArg List.length htext
      simp only [List.length_append, List.length_cons] at hlen
      omega
    have hb := lineInduction one more b
    exact htext ▸ more _ b hfront hb
termination_by text.length

/-! ### Lines with their offsets -/

namespace Line

/-- The line of a longer text that has so many more bytes in front. -/
def shift (bytes : Nat) (line : Line) : Line :=
  { line with offset := line.offset + bytes }

@[simp]
theorem text_shift (bytes : Nat) (line : Line) : (line.shift bytes).text = line.text :=
  rfl

/-- Pieces are laid out behind the bytes of those before them, newlines included. -/
theorem layout_append (offset : Nat) (a b : List (List Char)) :
    layout offset (a ++ b) =
      layout offset a ++ layout (offset + (a.map fun raw ↦ byteLength raw + 1).sum) b := by
  induction a generalizing offset with
  | nil => simp [layout]
  | cons raw a ih =>
    rw [List.cons_append, layout, ih, layout, List.cons_append, List.map_cons, List.sum_cons]
    congr 3
    omega

theorem layout_add (offset bytes : Nat) (raws : List (List Char)) :
    layout (offset + bytes) raws = (layout offset raws).map (shift bytes) := by
  induction raws generalizing offset with
  | nil => rfl
  | cons raw raws ih =>
    have hnext : offset + bytes + byteLength raw + 1 = offset + byteLength raw + 1 + bytes := by
      omega
    rw [layout, layout, hnext, ih, List.map_cons, shift]

end Line

/-- All stretches and the newline behind each, the last one included, have one byte too many. -/
theorem sum_cutAtNewlines (text : List Char) :
    ((cutAtNewlines text).map fun raw ↦ byteLength raw + 1).sum = byteLength text + 1 := by
  induction text using lineInduction with
  | one a ha => simp [cutAtNewlines_of_notMem ha]
  | more a b ha ih =>
    have hnewline : '\n'.utf8Size = 1 := rfl
    rw [cutAtNewlines_append_newline, cutAtNewlines_of_notMem ha, List.map_append, List.sum_append,
      ih, byteLength_append, byteLength_cons, hnewline]
    simp
    omega

/-- **The lines of a text on both sides of a newline.** -/
theorem lines_append_newline (a b : List Char) :
    lines (a ++ '\n' :: b) = lines a ++ (lines b).map (Line.shift (byteLength a + 1)) := by
  rw [lines, cutAtNewlines_append_newline, Line.layout_append, sum_cutAtNewlines, Line.layout_add,
    lines, lines]

/-- A text without newlines is one line, and a return at its end is dropped. -/
theorem lines_of_notMem {a : List Char} (h : '\n' ∉ a) : lines a = [⟨0, dropFinalReturn a⟩] := by
  rw [lines, cutAtNewlines_of_notMem h]
  rfl

/-! ### Where the lines are -/

theorem dropFinalReturn_isPrefix (line : List Char) : dropFinalReturn line <+: line := by
  unfold dropFinalReturn
  split
  · exact List.dropLast_prefix line
  · exact List.prefix_refl line

theorem byteLength_dropFinalReturn_le (a : List Char) :
    byteLength (dropFinalReturn a) ≤ byteLength a := by
  obtain ⟨cut, hcut⟩ := dropFinalReturn_isPrefix a
  have hlen := congrArg byteLength hcut
  rw [byteLength_append] at hlen
  omega

/-- The lines of a text have no more bytes than the text. -/
theorem sum_byteLength_lines_le (text : List Char) :
    ((lines text).map fun line ↦ byteLength line.text).sum ≤ byteLength text := by
  induction text using lineInduction with
  | one a ha => simpa [lines_of_notMem ha] using byteLength_dropFinalReturn_le a
  | more a b ha ih =>
    have hfirst := byteLength_dropFinalReturn_le a
    rw [lines_append_newline, lines_of_notMem ha, List.map_append, List.map_map, List.sum_append,
      byteLength_append, byteLength_cons]
    simp only [Function.comp_def, Line.text_shift, List.map_cons, List.map_nil, List.sum_cons,
      List.sum_nil]
    omega

/-- Each line stands at its offset in the text, and has no newline. -/
theorem exists_append_of_mem_lines {text : List Char} {line : Line} (h : line ∈ lines text) :
    ∃ before after, text = before ++ (line.text ++ after) ∧ byteLength before = line.offset ∧
      '\n' ∉ line.text := by
  have first {a : List Char} (ha : '\n' ∉ a) :
      ∃ cut, a = dropFinalReturn a ++ cut ∧ '\n' ∉ dropFinalReturn a := by
    obtain ⟨cut, hcut⟩ := dropFinalReturn_isPrefix a
    exact ⟨cut, hcut.symm, fun hmem ↦ ha ((dropFinalReturn_isPrefix a).subset hmem)⟩
  induction text using lineInduction generalizing line with
  | one a ha =>
    rw [lines_of_notMem ha, List.mem_singleton] at h
    subst h
    obtain ⟨cut, hcut, hnewline⟩ := first ha
    exact ⟨[], cut, hcut, rfl, hnewline⟩
  | more a b ha ih =>
    rw [lines_append_newline, lines_of_notMem ha] at h
    rcases List.mem_append.1 h with h | h
    · rw [List.mem_singleton] at h
      subst h
      obtain ⟨cut, hcut, hnewline⟩ := first ha
      refine ⟨[], cut ++ '\n' :: b, ?_, rfl, hnewline⟩
      rw [List.nil_append, ← List.append_assoc, ← hcut]
    -- A later line is one of the rest, shifted by the first line and its newline.
    · obtain ⟨line, hline, rfl⟩ := List.mem_map.1 h
      obtain ⟨before, after, rfl, hoffset, hnewline⟩ := ih hline
      refine ⟨a ++ '\n' :: before, after, by simp [Line.shift], ?_, hnewline⟩
      have hsize : '\n'.utf8Size = 1 := rfl
      rw [byteLength_append, byteLength_cons, hsize, hoffset]
      show byteLength a + (1 + line.offset) = line.offset + (byteLength a + 1)
      omega

/-- Each line ends before the next one starts. -/
theorem pairwise_lines (text : List Char) :
    (lines text).Pairwise fun a b ↦ a.offset + byteLength a.text < b.offset := by
  induction text using lineInduction with
  | one a ha => simp [lines_of_notMem ha]
  | more a b ha ih =>
    rw [lines_append_newline, lines_of_notMem ha, List.singleton_append, List.pairwise_cons]
    constructor
    · intro line hline
      obtain ⟨line, -, rfl⟩ := List.mem_map.1 hline
      obtain ⟨cut, hcut⟩ := dropFinalReturn_isPrefix a
      have hlen := congrArg byteLength hcut
      rw [byteLength_append] at hlen
      simp only [Line.shift]
      omega
    · rw [List.pairwise_map]
      exact ih.imp fun hlt ↦ by simp only [Line.shift]; omega

/-! ### Stretches of one line -/

/-- Between the two offsets the text has characters, and none of them is a newline. -/
def IsStretch (text : List Char) (start stop : Nat) : Prop :=
  ∃ before inside after, text = before ++ (inside ++ after) ∧ byteLength before = start ∧
    start + byteLength inside = stop ∧ inside ≠ [] ∧ '\n' ∉ inside

theorem IsStretch.append {text : List Char} {start middle stop : Nat}
    (h : IsStretch text start middle) (h' : IsStretch text middle stop) :
    IsStretch text start stop := by
  obtain ⟨before, inside, after, htext, hstart, hmiddle, hne, hnewline⟩ := h
  obtain ⟨before', inside', after', htext', hmiddle', hstop, -, hnewline'⟩ := h'
  have hboth : (before ++ inside) ++ after = before' ++ (inside' ++ after') := by
    rw [List.append_assoc, ← htext, htext']
  obtain ⟨-, rfl⟩ := eq_of_append_eq_append hboth (by rw [byteLength_append]; omega)
  refine ⟨before, inside ++ inside', after', by simp [htext], hstart, ?_, by simp [hne], ?_⟩
  · rw [byteLength_append]
    omega
  · rw [List.mem_append, not_or]
    exact ⟨hnewline, hnewline'⟩

/-- What a line has between two offsets is a stretch of the text. -/
theorem isStretch_of_slice? {text inside : List Char} {line : Line} {start stop : Nat}
    (hline : line ∈ lines text) (h : slice? start stop line.text = some inside)
    (hne : inside ≠ []) : IsStretch text (line.offset + start) (line.offset + stop) := by
  obtain ⟨before, after, htext, hoffset, hnewline⟩ := exists_append_of_mem_lines hline
  obtain ⟨front, back, hcut, hstart, hstop⟩ := slice?_eq_some_iff.1 h
  refine ⟨before ++ front, inside, back ++ after, ?_, ?_, by omega, hne, ?_⟩
  · simp [htext, hcut]
  · rw [byteLength_append, hoffset, hstart]
  · exact fun hmem ↦ hnewline (by simp [hcut, hmem])

end RonWorkbench.Text
