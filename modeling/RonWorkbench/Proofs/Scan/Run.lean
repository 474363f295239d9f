import RonWorkbench.Proofs.Scan.Step

/-!
# Runs of a scan

`Scans s line pieces u rest` says that a scan of the line from the stack `s` comes, after some
number of steps, to a scan position where `rest` is left of the line and the stack is `u`, and that
the pieces are what it has cut off so far. So "at every scan position" is a quantifier over the
runs of a line.

The function `scan` is the run to the end of the line (`scans_scan`), and every run can be
continued by it (`Scans.scan_eq`). What a single step keeps, a run keeps (`Scans.invariant`); the
invariant may count the bytes that the scan has passed. Conversely each piece of a scan was cut off
by the step at some scan position (`Scans.exists_step_of_eq`).
-/

namespace RonWorkbench

/-- The text of pieces laid end to end. -/
def Piece.textOf (pieces : List Piece) : List Char :=
  (pieces.map Piece.text).flatten

/-- A scan from a stack along a line: what it cuts off, and the stack and the rest it comes to. -/
inductive Scans : Stack → List Char → List Piece → Stack → List Char → Prop
  | refl (s : Stack) (line : List Char) : Scans s line [] s line
  | step {s u : Stack} {c : Char} {line rest : List Char} {pieces : List Piece}
      (h : Scans (scanStep s c line).stack
        ((c :: line).drop (scanStep s c line).consumed.length) pieces u rest) :
      Scans s (c :: line) ((scanStep s c line).pieces ++ pieces) u rest

namespace Piece

@[simp]
theorem textOf_nil : textOf [] = [] :=
  rfl

@[simp]
theorem textOf_cons (p : Piece) (pieces : List Piece) :
    textOf (p :: pieces) = p.text ++ textOf pieces :=
  rfl

@[simp]
theorem textOf_append (a b : List Piece) : textOf (a ++ b) = textOf a ++ textOf b := by
  simp [textOf]

/-- A character of the text is in one of the pieces. -/
theorem exists_of_textOf_eq {pieces : List Piece} {before after : List Char} {c : Char}
    (h : textOf pieces = before ++ c :: after) :
    ∃ done p rest inner outer, pieces = done ++ p :: rest ∧ p.text = inner ++ c :: outer ∧
      before = textOf done ++ inner := by
  induction pieces generalizing before with
  | nil => simp at h
  | cons p pieces ih =>
    have further (front : List Char) (h : textOf pieces = front ++ c :: after) :
        ∃ done q rest inner outer, p :: pieces = done ++ q :: rest ∧ q.text = inner ++ c :: outer ∧
          p.text ++ front = textOf done ++ inner := by
      obtain ⟨done, q, rest, inner, outer, rfl, htext, rfl⟩ := ih h
      exact ⟨p :: done, q, rest, inner, outer, rfl, htext, by simp⟩
    rw [textOf_cons] at h
    rcases List.append_eq_append_iff.1 h with ⟨m, rfl, hmore⟩ | ⟨m, htext, hmore⟩
    · exact further m hmore
    · cases m with
      | nil =>
        -- the first piece ends in front of the character
        have hnext := further [] hmore.symm
        rwa [htext, List.append_nil, List.append_nil] at hnext
      | cons d m =>
        obtain ⟨rfl, -⟩ := List.cons.inj hmore
        exact ⟨[], p, pieces, before, m, rfl, htext, rfl⟩

end Piece

/-- What a step takes is the text of its pieces. -/
theorem textOf_pieces (t : Step) : Piece.textOf t.pieces = t.consumed :=
  rfl

/-! ### Single steps -/

/-- The line in front of a step is what the step takes, and what it leaves. -/
theorem consumed_append_drop (s : Stack) (c : Char) (line : List Char) :
    (scanStep s c line).consumed ++ (c :: line).drop (scanStep s c line).consumed.length =
      c :: line :=
  List.prefix_iff_eq_append.1 (consumed_scanStep_isPrefix s c line)

/-- Each piece that a step cuts off has at least one character. -/
theorem text_ne_nil_of_mem_pieces {s : Stack} {c : Char} {line : List Char} {p : Piece}
    (hp : p ∈ (scanStep s c line).pieces) : p.text ≠ [] := by
  have hne := consumed_scanStep_ne_nil s c line
  have hacts := acts_scanStep s c line
  generalize scanStep s c line = t at hp hne hacts
  cases hacts with
  | member hs hname =>
    simp only [Lexeme.memberPieces, List.mem_cons, List.mem_append, List.not_mem_nil,
      or_false] at hp
    rcases hp with rfl | hgap | rfl
    · exact hname
    · split at hgap
      · simp at hgap
      · next hempty =>
        rw [List.mem_singleton.1 hgap]
        simpa using hempty
    · simp
  | nests | unnests =>
    simp only [Step.classify, List.mem_singleton] at hp
    simp [hp]
  | _ =>
    -- all other steps cut off a single piece, which is then all that they take
    simp only [Step.classify, Step.plain, Step.openFrame, Step.closeFrame,
      List.mem_singleton] at hp
    subst hp
    simpa [Step.consumed, Step.classify, Step.plain, Step.openFrame, Step.closeFrame] using hne

/-- A piece stands in the frames before its step or in those behind it, and its leaf is a leaf. -/
theorem Step.Acts.frames_of_mem {s : Stack} {t : Step} (h : Step.Acts s t) {p : Piece}
    (hp : p ∈ t.pieces) :
    (p.frames = s ∨ p.frames = t.stack) ∧ ∀ leaf ∈ p.leaf, leaf.isLeaf := by
  -- An opener stands inside what it opens, a closer inside what it closes.
  cases h with
  | classify hs hleaf =>
    simp only [Step.classify, List.mem_singleton] at hp
    subst hp
    exact ⟨.inl rfl, by simpa using hleaf⟩
  | escape hf =>
    simp only [Step.classify, List.mem_singleton] at hp
    subst hp
    exact ⟨.inl rfl, by simp [Scope.isLeaf, Scope.isFrame]⟩
  | plain =>
    simp only [Step.plain, List.mem_singleton] at hp
    subst hp
    exact ⟨.inl rfl, by simp⟩
  | member hs hname =>
    simp only [Lexeme.memberPieces, List.mem_cons, List.mem_append, List.not_mem_nil,
      or_false] at hp
    rcases hp with rfl | hgap | rfl
    · exact ⟨.inl rfl, by simp [Scope.isLeaf, Scope.isFrame]⟩
    · split at hgap
      · simp at hgap
      · rw [List.mem_singleton.1 hgap]
        exact ⟨.inl rfl, by simp⟩
    · exact ⟨.inl rfl, by simp [Scope.isLeaf, Scope.isFrame]⟩
  | @opens _ f hs hf =>
    simp only [Step.openFrame, Step.classify, List.mem_singleton] at hp
    subst hp
    exact ⟨.inr rfl, by simpa using f.isLeaf_mark⟩
  | @closes f below hf =>
    simp only [Step.closeFrame, List.mem_singleton] at hp
    subst hp
    exact ⟨.inl rfl, by simpa using f.isLeaf_mark⟩
  | nests =>
    simp only [Step.classify, List.mem_singleton] at hp
    subst hp
    exact ⟨.inr rfl, by simp [Scope.isLeaf, Scope.isFrame]⟩
  | unnests =>
    simp only [List.mem_singleton] at hp
    subst hp
    exact ⟨.inl rfl, by simp [Scope.isLeaf, Scope.isFrame]⟩

/-! ### Runs -/

theorem scan_nil (s : Stack) : scan s [] = ([], s) := by
  rw [scan]

/-- **A scan is a step and the scan of what the step leaves.** -/
theorem scan_cons (s : Stack) (c : Char) (line : List Char) :
    scan s (c :: line) =
      ((scanStep s c line).pieces ++ (scan (scanStep s c line).stack
          ((c :: line).drop (scanStep s c line).consumed.length)).1,
        (scan (scanStep s c line).stack
          ((c :: line).drop (scanStep s c line).consumed.length)).2) := by
  rw [scan]

/-- **A scan is a run to the end of its line.** -/
theorem scans_scan (s : Stack) (line : List Char) :
    Scans s line (scan s line).1 (scan s line).2 [] := by
  induction s, line using scan.induct with
  | case1 s =>
    rw [scan_nil]
    exact .refl s []
  | case2 s c line t ih =>
    rw [scan_cons]
    exact .step ih

namespace Scans

variable {s u v : Stack} {line rest more : List Char} {pieces others : List Piece}

/-- A run of one step. -/
theorem one (s : Stack) (c : Char) (line : List Char) :
    Scans s (c :: line) (scanStep s c line).pieces (scanStep s c line).stack
      ((c :: line).drop (scanStep s c line).consumed.length) := by
  simpa using Scans.step (.refl (scanStep s c line).stack _)

theorem trans (h : Scans s line pieces u rest) (h' : Scans u rest others v more) :
    Scans s line (pieces ++ others) v more := by
  induction h with
  | refl => exact h'
  | step _ ih =>
    rw [List.append_assoc]
    exact .step (ih h')

/-- The pieces of a run are the line up to the scan position. -/
theorem textOf_append (h : Scans s line pieces u rest) :
    Piece.textOf pieces ++ rest = line := by
  induction h with
  | refl => rfl
  | @step s u c line rest pieces _ ih =>
    rw [Piece.textOf_append, List.append_assoc, ih, textOf_pieces, consumed_append_drop]

/-- The scan from the position that a run comes to continues the run. -/
theorem scan_eq (h : Scans s line pieces u rest) :
    scan s line = (pieces ++ (scan u rest).1, (scan u rest).2) := by
  induction h with
  | refl => rfl
  | step _ ih => rw [scan_cons, ih, List.append_assoc]

/-- A run that has come to the end of the line is the scan of the line. -/
theorem scan_eq_of_nil (h : Scans s line pieces u []) : scan s line = (pieces, u) := by
  rw [h.scan_eq, scan_nil, List.append_nil]

/-- **What each step keeps, a run keeps.** The invariant may count the bytes passed. -/
theorem invariant (Inv : Nat → Stack → Prop)
    (hstep : ∀ n s t, Step.Acts s t → Inv n s → Inv (n + Text.byteLength t.consumed) t.stack)
    (h : Scans s line pieces u rest) {n : Nat} (hs : Inv n s) :
    Inv (n + Text.byteLength (Piece.textOf pieces)) u := by
  induction h generalizing n with
  | refl => exact hs
  | @step s u c line rest pieces _ ih =>
    rw [Piece.textOf_append, Text.byteLength_append, ← Nat.add_assoc]
    exact ih (hstep n s _ (acts_scanStep s c line) hs)

/-- Each piece of a run was cut off by the step at some scan position. -/
theorem exists_step_of_eq (h : Scans s line pieces u rest) {before after : List Piece} {p : Piece}
    (hp : pieces = before ++ p :: after) :
    ∃ (done : List Piece) (v : Stack) (c : Char) (more : List Char) (inner outer : List Piece),
      Scans s line done v (c :: more) ∧ (scanStep v c more).pieces = inner ++ p :: outer ∧
        before = done ++ inner := by
  induction h generalizing before with
  | refl => simp at hp
  | @step s u c line rest pieces _ ih =>
    -- the piece is one of the run behind the first step, or one of the first step itself
    rcases List.append_eq_append_iff.1 hp with ⟨b, rfl, hb⟩ | ⟨a, ha, hafter⟩
    · obtain ⟨done, v, d, more, inner, outer, hrun, hinner, rfl⟩ := ih hb
      exact ⟨_ ++ done, v, d, more, inner, outer, .step hrun, hinner,
        (List.append_assoc _ _ _).symm⟩
    · cases a with
      | nil =>
        have hfirst : pieces = [] ++ p :: after := hafter.symm
        obtain ⟨done, v, d, more, inner, outer, hrun, hinner, hnil⟩ := ih hfirst
        refine ⟨_ ++ done, v, d, more, inner, outer, .step hrun, hinner, ?_⟩
        rw [List.append_assoc, ← hnil, List.append_nil, ha, List.append_nil]
      | cons q outer =>
        obtain ⟨rfl, -⟩ := List.cons.inj hafter
        exact ⟨[], s, c, line, before, outer, .refl s _, ha, rfl⟩

end Scans

/-- A run of one step that is known to cut off a single piece. -/
theorem scans_of_scanStep {s u : Stack} {c : Char} {line more : List Char} {p : Piece}
    (h : scanStep s c line = ⟨[p], u⟩) (hline : c :: line = p.text ++ more) :
    Scans s (c :: line) [p] u more := by
  have hrun := Scans.one s c line
  have hconsumed : Step.consumed ⟨[p], u⟩ = p.text := by simp [Step.consumed]
  have hrest : (c :: line).drop p.text.length = more := by rw [hline, List.drop_left]
  rwa [h, hconsumed, hrest] at hrun

/-- The pieces of a scan are the line. -/
theorem textOf_scan (s : Stack) (line : List Char) : Piece.textOf (scan s line).1 = line := by
  simpa using (scans_scan s line).textOf_append

/-- What holds of the pieces of every step, holds of the pieces of a scan. -/
theorem forall_mem_scan {P : Piece → Prop}
    (hstep : ∀ s c line, ∀ p ∈ (scanStep s c line).pieces, P p) {s : Stack} {line : List Char}
    {p : Piece} (hp : p ∈ (scan s line).1) : P p := by
  obtain ⟨before, after, hsplit⟩ := List.append_of_mem hp
  obtain ⟨-, v, c, more, inner, outer, -, hinner, -⟩ := (scans_scan s line).exists_step_of_eq hsplit
  exact hstep v c more p (by simp [hinner])

/-- Each piece has at least one character. -/
theorem text_ne_nil_of_mem_scan {s : Stack} {line : List Char} {p : Piece}
    (hp : p ∈ (scan s line).1) : p.text ≠ [] :=
  forall_mem_scan (fun _ _ _ _ ↦ text_ne_nil_of_mem_pieces) hp

end RonWorkbench
