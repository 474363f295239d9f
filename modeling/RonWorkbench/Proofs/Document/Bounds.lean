import RonWorkbench.Proofs.Document.Lines

/-!
# How large the counts of a document are

Whatever a document counts, it counts no further than the bytes of its text
(`Document.countsWithin_ofText`): the number of a line is at most its offset, because each line in
front has a terminator; the offset and the tokens of a line end in the text; and a raw string that
is left open was opened with as many hashes as it counts (`Stack.HashesWithin`).
-/

namespace RonWorkbench

namespace Stack

/-- Every raw string has at most so many hashes. -/
def HashesWithin (bound : Nat) (s : Stack) : Prop :=
  ∀ hashes byte, Frame.rawQuoted hashes byte ∈ s → hashes ≤ bound

theorem HashesWithin.mono {s : Stack} {bound more : Nat} (h : s.HashesWithin bound)
    (hle : bound ≤ more) : s.HashesWithin more :=
  fun hashes byte hmem ↦ (h hashes byte hmem).trans hle

theorem HashesWithin.subset {s u : Stack} {bound : Nat} (h : s.HashesWithin bound) (hu : u ⊆ s) :
    u.HashesWithin bound :=
  fun hashes byte hmem ↦ h hashes byte (hu hmem)

theorem HashesWithin.cons {s : Stack} {bound : Nat} {f : Frame} (h : s.HashesWithin bound)
    (hf : ∀ hashes byte, f = .rawQuoted hashes byte → hashes ≤ bound) :
    HashesWithin bound (f :: s) := by
  intro hashes byte hmem
  rcases List.mem_cons.1 hmem with heq | hmem
  · exact hf hashes byte heq.symm
  · exact h hashes byte hmem

/-- The hashes of a raw string that is opened are among the bytes of its opener. -/
theorem le_byteLength_opening (hashes : Nat) (byte : Bool) :
    hashes ≤ Text.byteLength (Frame.rawQuoted hashes byte).opening := by
  refine Nat.le_trans ?_ (Text.length_le_byteLength _)
  simp only [Frame.opening, List.length_append, List.length_cons, Lexeme.length_hashRun]
  omega

/-- A step adds hashes only with the bytes of an opener. -/
theorem HashesWithin.of_acts {s : Stack} {t : Step} {n : Nat} (h : s.HashesWithin n)
    (ht : Step.Acts s t) : HashesWithin (n + Text.byteLength t.consumed) t.stack := by
  have hmono : s.HashesWithin (n + Text.byteLength t.consumed) := h.mono (Nat.le_add_right _ _)
  cases ht with
  | classify | escape | plain | member => exact hmono
  -- A raw string is opened with its hashes, so they are bytes that the step takes.
  | @opens _ f hs hf =>
    refine hmono.cons fun hashes byte hraw ↦ ?_
    subst hraw
    have hconsumed : (Step.openFrame s (.rawQuoted hashes byte)
        (Frame.rawQuoted hashes byte).mark (Frame.rawQuoted hashes byte).opening).consumed =
        (Frame.rawQuoted hashes byte).opening := by
      simp [Step.consumed, Step.openFrame, Step.classify]
    have hle := le_byteLength_opening hashes byte
    rw [hconsumed]
    omega
  | closes => exact hmono.subset (List.subset_cons_self _ _)
  | nests => exact (hmono.subset (List.subset_cons_self _ _)).cons (by simp)
  | unnests =>
    have hbelow := hmono.subset (List.subset_cons_self _ _)
    show HashesWithin _ (if _ then _ else _)
    split
    · exact hbelow
    · exact hbelow.cons (by simp)

theorem HashesWithin.tokenizeLine {s : Stack} {n : Nat} (h : s.HashesWithin n)
    (line : List Char) :
    (tokenizeLine line s).stack.HashesWithin (n + Text.byteLength line) := by
  have hscan := (scans_scan s line).invariant (fun m v ↦ HashesWithin m v)
    (fun _ _ _ ht hv ↦ hv.of_acts ht) h
  rw [textOf_scan] at hscan
  exact hscan.subset (endLine_suffix _).subset

/-- Lines in a row add no more hashes than they have bytes. -/
theorem HashesWithin.afterLines {s : Stack} {n : Nat} (h : s.HashesWithin n)
    (lines : List (List Char)) :
    (s.afterLines lines).HashesWithin (n + (lines.map Text.byteLength).sum) := by
  induction lines generalizing s n with
  | nil => exact h
  | cons line lines ih =>
    rw [List.map_cons, List.sum_cons, ← Nat.add_assoc]
    exact ih (h.tokenizeLine line)

end Stack

namespace Document

/-- Each line has at most as many lines in front of it as it has bytes in front of it. -/
theorem Line.number_le_offset {number offset : Nat} (h : number ≤ offset) {s : Stack}
    {raws : List (List Char)} {line : Line}
    (hline : line ∈ (classify number s (Text.Line.layout offset raws)).1) :
    line.number ≤ line.offset := by
  induction raws generalizing number offset s with
  | nil => simp [Text.Line.layout, classify] at hline
  | cons raw raws ih =>
    rw [Text.Line.layout, classify] at hline
    rcases List.mem_cons.1 hline with rfl | hline
    · exact h
    · exact ih (by omega) hline

/-- Nothing is counted beyond a bound. -/
structure CountsWithin (bound : Nat) (d : Document) : Prop where
  number_le : ∀ line ∈ d.lines, line.number ≤ bound
  offset_le : ∀ line ∈ d.lines, line.offset ≤ bound
  stop_le : ∀ line ∈ d.lines, ∀ t ∈ line.tokens, t.start ≤ t.stop ∧ t.stop ≤ bound
  hashes_le : d.stack.HashesWithin bound

theorem start_lt_stop_of_mem_tokens {text : List Char} {line : Line}
    (hline : line ∈ (ofText text).lines) {t : Token} (ht : t ∈ line.tokens) : t.start < t.stop := by
  obtain ⟨front, back, -, htokens⟩ := Line.exists_front_of_mem_classify hline
  rw [htokens] at ht
  exact (covers_tokenizeLine _ _).start_lt_stop t ht

/-- **A document counts no further than the bytes of its text.** -/
theorem countsWithin_ofText (text : List Char) :
    (ofText text).CountsWithin (Text.byteLength text) := by
  have hend (line : Line) (hline : line ∈ (ofText text).lines) :
      line.offset + Text.byteLength line.text ≤ Text.byteLength text := by
    obtain ⟨before, after, htext, hoffset, -⟩ :=
      Text.exists_append_of_mem_lines (bare_mem_lines hline)
    have hlength := congrArg Text.byteLength htext
    rw [Text.byteLength_append, Text.byteLength_append, hoffset] at hlength
    show line.bare.offset + Text.byteLength line.bare.text ≤ _
    omega
  refine ⟨fun line hline ↦ ?_, fun line hline ↦ ?_, fun line hline t ht ↦ ⟨?_, ?_⟩, ?_⟩
  · have hnumber : line.number ≤ line.offset := Line.number_le_offset (Nat.le_refl 0) hline
    have hline := hend line hline
    omega
  · have hline := hend line hline
    omega
  · exact (start_lt_stop_of_mem_tokens hline ht).le
  · have hstop := stop_le_of_mem_tokens hline ht
    have hline := hend line hline
    omega
  · rw [stack_ofText]
    have hstart : Stack.HashesWithin 0 [] := by simp [Stack.HashesWithin]
    refine (hstart.afterLines _).mono ?_
    rw [Nat.zero_add, List.map_map]
    exact Text.sum_byteLength_lines_le text

end Document

end RonWorkbench
