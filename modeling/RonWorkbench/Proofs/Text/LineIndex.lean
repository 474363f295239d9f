import Mathlib.Data.List.DropRight
import RonWorkbench.Proofs.Text.Cut
import RonWorkbench.Text.Position

/-!
# Positions, read off the text

The position of a character boundary has nothing to do with bisection: if `before` stands in front
of it, its line is the number of newlines in `before`, and its column is the length of what follows
the last of them (`LineIndex.position_append`, `LineIndex.position16?_append`). In particular every
character boundary has a column in UTF-16 units, so that the look-up of an offset of a token cannot
fail.

Bisection finds the index up to which entries are at most the offset and beyond which they are not
(`Text.lastStart_eq`). That the starts of lines split there is a fact about their list: the starts
that the front of a text adds stand in front of those that the back adds.
-/

namespace RonWorkbench.Text

/-! ### The line that a text ends with -/

/-- What follows the last newline, or the whole text if there is none. -/
def lastLine (text : List Char) : List Char :=
  text.rtakeWhile (· != '\n')

/-- A newline starts the last line anew, and any other character goes on with it. -/
theorem lastLine_concat (text : List Char) (c : Char) :
    lastLine (text ++ [c]) = if c = '\n' then [] else lastLine text ++ [c] := by
  rw [lastLine, List.rtakeWhile_concat]
  by_cases hc : c = '\n' <;> simp [hc, lastLine]

/-- A text without newlines goes on with the last line. -/
theorem lastLine_append_of_notMem (a : List Char) {b : List Char} (h : '\n' ∉ b) :
    lastLine (a ++ b) = lastLine a ++ b := by
  induction b using List.reverseRecOn with
  | nil => simp
  | append_singleton b c ih =>
    have hc : c ≠ '\n' := by
      rintro rfl
      simp at h
    rw [← List.append_assoc, lastLine_concat, if_neg hc, ih fun hb ↦ h (by simp [hb]),
      List.append_assoc]

theorem lastLine_isSuffix (text : List Char) : lastLine text <:+ text :=
  List.rtakeWhile_suffix _ text

/-- The last line has no more units than the text has bytes. -/
theorem utf16Length_lastLine_le (text : List Char) :
    utf16Length (lastLine text) ≤ byteLength text := by
  obtain ⟨front, hfront⟩ := lastLine_isSuffix text
  have hlen := congrArg byteLength hfront
  have hunits := utf16Length_le_byteLength (lastLine text)
  rw [byteLength_append] at hlen
  omega

/-! ### The starts of lines -/

theorem startsAfterNewlines_append (offset : Nat) (a b : List Char) :
    startsAfterNewlines offset (a ++ b) =
      startsAfterNewlines offset a ++ startsAfterNewlines (offset + byteLength a) b := by
  induction a generalizing offset with
  | nil => simp [startsAfterNewlines]
  | cons c a ih =>
    rw [byteLength_cons, ← Nat.add_assoc]
    by_cases hc : c = '\n' <;> simp [startsAfterNewlines, hc, ih]

/-- There is one start for each newline. -/
theorem length_startsAfterNewlines (offset : Nat) (text : List Char) :
    (startsAfterNewlines offset text).length = text.count '\n' := by
  induction text generalizing offset with
  | nil => rfl
  | cons c text ih => by_cases hc : c = '\n' <;> simp [startsAfterNewlines, hc, ih]

/-- A line starts behind the offset counted from, and not behind the text. -/
theorem bounds_of_mem_startsAfterNewlines {offset start : Nat} {text : List Char}
    (h : start ∈ startsAfterNewlines offset text) :
    offset < start ∧ start ≤ offset + byteLength text := by
  induction text generalizing offset with
  | nil => simp [startsAfterNewlines] at h
  | cons c text ih =>
    have hpos := c.utf8Size_pos
    rw [byteLength_cons]
    rw [startsAfterNewlines] at h
    split at h
    · rcases List.mem_cons.1 h with rfl | h
      · omega
      · have hmore := ih h
        omega
    · have hmore := ih h
      omega

/-- Line starts ascend, so they can be searched. -/
theorem pairwise_startsAfterNewlines (offset : Nat) (text : List Char) :
    (offset :: startsAfterNewlines offset text).Pairwise (· < ·) := by
  induction text generalizing offset with
  | nil => simp [startsAfterNewlines]
  | cons c text ih =>
    refine List.pairwise_cons.2 ⟨fun start h ↦ (bounds_of_mem_startsAfterNewlines h).1, ?_⟩
    have hmore := ih (offset + c.utf8Size)
    rw [startsAfterNewlines]
    split
    · exact hmore
    · exact hmore.of_cons

/-- The last start is where the last line starts. -/
theorem getLast?_startsAfterNewlines (offset : Nat) (text : List Char) :
    ((offset :: startsAfterNewlines offset text).getLast?.getD 0) + byteLength (lastLine text) =
      offset + byteLength text := by
  induction text using List.reverseRecOn with
  | nil => simp [startsAfterNewlines, lastLine]
  | append_singleton text c ih =>
    rw [startsAfterNewlines_append, lastLine_concat, byteLength_append]
    by_cases hc : c = '\n'
    · rw [startsAfterNewlines, if_pos hc, if_pos hc, startsAfterNewlines, ← List.cons_append,
        List.getLast?_concat, Option.getD_some, byteLength_cons]
      simp only [byteLength_nil]
      omega
    · simp only [startsAfterNewlines, hc, if_false, List.append_nil, byteLength_append]
      omega

/-! ### Bisection -/

/-- **Bisection finds the index at which the entries pass the offset.** -/
theorem lastStart_eq {starts : Array Nat} {offset low high k : Nat} (hlow : low ≤ k)
    (hhigh : k < high) (hle : ∀ i ≤ k, starts.getD i 0 ≤ offset)
    (hgt : ∀ i, k < i → i < high → offset < starts.getD i 0) :
    lastStart starts offset low high = k := by
  induction low, high using lastStart.induct starts offset with
  | case1 low high hmore middle hmiddle ih =>
    -- the entry in the middle is at most the offset, so the index is not in front of it
    have hk : middle ≤ k := by
      by_contra hlt
      have hpast := hgt middle (by omega) (by omega)
      omega
    rw [lastStart, if_pos hmore, if_pos hmiddle]
    exact ih hk hhigh hgt
  | case2 low high hmore middle hmiddle ih =>
    -- the entry in the middle is past the offset already
    have hk : k < middle := by
      by_contra hge
      exact hmiddle (hle middle (by omega))
    rw [lastStart, if_pos hmore, if_neg hmiddle]
    exact ih hlow hk fun i hki hi ↦ hgt i hki (by omega)
  | case3 low high hdone =>
    rw [lastStart, if_neg hdone]
    omega

end RonWorkbench.Text

namespace RonWorkbench.LineIndex

open Text

/-! ### Positions -/

/-- The index's starts are those of the text, with the offset zero in front. -/
theorem getD_starts (text : List Char) (i : Nat) :
    (ofText text).starts.getD i 0 = (0 :: startsAfterNewlines 0 text)[i]?.getD 0 := by
  rw [ofText, Array.getD_eq_getD_getElem?, List.getElem?_toArray]

section Boundary

variable (before after : List Char)

/-- There is one line more than there are newlines. -/
theorem size_starts :
    (ofText (before ++ after)).starts.size = before.count '\n' + 1 + after.count '\n' := by
  rw [ofText, List.size_toArray, List.length_cons, length_startsAfterNewlines, List.count_append]
  omega

/-- Up to the line of the boundary the index is that of the text in front of it. -/
theorem getD_starts_of_le {i : Nat} (hi : i ≤ before.count '\n') :
    (ofText (before ++ after)).starts.getD i 0 =
      (0 :: startsAfterNewlines 0 before)[i]?.getD 0 := by
  rw [getD_starts, startsAfterNewlines_append, ← List.cons_append, List.getElem?_append_left]
  rw [List.length_cons, length_startsAfterNewlines]
  omega

/-- The line of a place, and any line before it, starts at the place or before it. -/
theorem getD_starts_le {i : Nat} (hi : i ≤ before.count '\n') :
    (ofText (before ++ after)).starts.getD i 0 ≤ byteLength before := by
  rw [getD_starts_of_le before after hi]
  have hlen : i < (0 :: startsAfterNewlines 0 before).length := by
    rw [List.length_cons, length_startsAfterNewlines]
    omega
  rw [List.getElem?_eq_getElem hlen, Option.getD_some]
  rcases List.mem_cons.1 (List.getElem_mem hlen) with hzero | hmem
  · omega
  · have hbounds := bounds_of_mem_startsAfterNewlines hmem
    omega

/-- Any line behind the line of a place starts behind the place. -/
theorem lt_getD_starts {i : Nat} (hi : before.count '\n' < i)
    (hsize : i < (ofText (before ++ after)).starts.size) :
    byteLength before < (ofText (before ++ after)).starts.getD i 0 := by
  rw [size_starts] at hsize
  have hlen : (0 :: startsAfterNewlines 0 before).length = before.count '\n' + 1 := by
    rw [List.length_cons, length_startsAfterNewlines]
  rw [getD_starts, startsAfterNewlines_append, Nat.zero_add, ← List.cons_append,
    List.getElem?_append_right (by omega), hlen]
  have hback :
      i - (before.count '\n' + 1) < (startsAfterNewlines (byteLength before) after).length := by
    rw [length_startsAfterNewlines]
    omega
  rw [List.getElem?_eq_getElem hback, Option.getD_some]
  exact (bounds_of_mem_startsAfterNewlines (List.getElem_mem hback)).1

/-- The line of a boundary starts where the last line in front of it does. -/
theorem getD_starts_count :
    (ofText (before ++ after)).starts.getD (before.count '\n') 0 + byteLength (lastLine before) =
      byteLength before := by
  have hlast := getLast?_startsAfterNewlines 0 before
  rw [List.getLast?_eq_getElem?, List.length_cons, length_startsAfterNewlines,
    Nat.add_sub_cancel, Nat.zero_add] at hlast
  rw [getD_starts_of_le before after (Nat.le_refl _), hlast]

/-- **The position of a character boundary is told by the text in front of it.** -/
theorem position_append :
    (ofText (before ++ after)).position (byteLength before) =
      ⟨before.count '\n', byteLength (lastLine before)⟩ := by
  have hclamp : (ofText (before ++ after)).clamp (byteLength before) = byteLength before := by
    show min (byteLength before) (byteLength (before ++ after)) = byteLength before
    rw [byteLength_append]
    omega
  have hsize := size_starts before after
  have hline : lastStart (ofText (before ++ after)).starts (byteLength before) 0
      (ofText (before ++ after)).starts.size = before.count '\n' :=
    lastStart_eq (Nat.zero_le _) (by omega) (fun i hi ↦ getD_starts_le before after hi)
      fun i hi hsize ↦ lt_getD_starts before after hi hsize
  have hcolumn := getD_starts_count before after
  rw [position, hclamp, hline]
  congr 1
  omega

/-- **Every character boundary has a column in UTF-16 units.** -/
theorem position16?_append :
    (ofText (before ++ after)).position16? (byteLength before) =
      some ⟨before.count '\n', utf16Length (lastLine before)⟩ := by
  -- the line starts where the text in front of it stops, which is a character boundary as well
  obtain ⟨front, hfront⟩ := lastLine_isSuffix before
  have hstart :
      (ofText (before ++ after)).starts.getD (before.count '\n') 0 = byteLength front := by
    have hcolumn := getD_starts_count before after
    have hlen := congrArg byteLength hfront
    rw [byteLength_append] at hlen
    omega
  have hslice := slice?_append front (lastLine before) after
  rw [← List.append_assoc, hfront] at hslice
  rw [position16?, position_append]
  show (slice? ((ofText (before ++ after)).starts.getD (before.count '\n') 0)
    ((ofText (before ++ after)).starts.getD (before.count '\n') 0 + byteLength (lastLine before))
    (before ++ after)).bind _ = _
  rw [hstart, hslice]
  rfl

end Boundary

end RonWorkbench.LineIndex
