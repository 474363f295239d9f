import Mathlib.Algebra.Ring.Nat
import Mathlib.Data.List.TakeWhile
import RonWorkbench.Document
import RonWorkbench.Proofs.Scan.Run

/-!
# The shape of a stack

Two invariants hold at every scan position of every line that is scanned from the empty stack.

* `Stack.Nested`: only the innermost construct can be a literal. It rests on the one fact that a
  construct is opened in value position only, and needs no bound on the text.
* `Stack.DepthWithin`: each comment is at least one level deep, and at most one level for every two
  bytes passed. The count is kept in a word, so this one holds as long as half the number of bytes
  fits into the word; that is where the length of the text comes in.

A character literal is dropped where its line ends, so between lines the two invariants come down
to `Stack.WellShaped`: groups only, or groups with one literal inside them that can be carried to
the next line.
-/

namespace RonWorkbench

namespace Stack

/-- Only the innermost construct can be a literal. -/
def Nested (s : Stack) : Prop :=
  ∀ f ∈ s.tail, f.isLiteral = false

/-- Every comment is between one and so many levels deep. -/
def DepthWithin (bound : Nat) (s : Stack) : Prop :=
  ∀ depth, Frame.blockComment depth ∈ s → 1 ≤ depth.toNat ∧ depth.toNat ≤ bound

/-- The stack that lines leave, each scanned from the stack that the one before it left. -/
def afterLines (s : Stack) (lines : List (List Char)) : Stack :=
  lines.foldl (fun u line ↦ (tokenizeLine line u).stack) s

@[simp]
theorem afterLines_nil (s : Stack) : afterLines s [] = s :=
  rfl

@[simp]
theorem afterLines_cons (s : Stack) (line : List Char) (lines : List (List Char)) :
    afterLines s (line :: lines) = afterLines (tokenizeLine line s).stack lines :=
  rfl

/-! ### Only the innermost construct can be a literal -/

theorem nested_nil : Nested [] := by
  simp [Nested]

/-- In value position a stack that is nested well has groups only. -/
theorem Nested.isLiteral_of_inValue {s : Stack} (h : s.Nested) (hs : s.InValue) :
    ∀ f ∈ s, f.isLiteral = false := by
  intro f hf
  cases s with
  | nil => simp at hf
  | cons g below =>
    rcases List.mem_cons.1 hf with rfl | hf
    · exact hs f rfl
    · exact h f hf

/-- What is left when the innermost construct is closed is nested. -/
theorem Nested.tail {s : Stack} (h : s.Nested) : Nested s.tail :=
  fun f hf ↦ h f (List.mem_of_mem_tail hf)

/-- A step keeps the nesting: what it opens, it opens in value position. -/
theorem Nested.of_acts {s : Stack} {t : Step} (h : s.Nested) (ht : Step.Acts s t) :
    Nested t.stack := by
  cases ht with
  | classify | escape | plain | member => exact h
  | opens hs hf => exact h.isLiteral_of_inValue hs
  | closes => exact h.tail
  | nests => exact h
  | unnests =>
    show Nested (if _ then _ else _)
    split
    · exact h.tail
    · exact h

/-- Every scan position of a line is nested well if its start is. -/
theorem Nested.of_scans {s u : Stack} {line rest : List Char} {pieces : List Piece} (h : s.Nested)
    (hrun : Scans s line pieces u rest) : u.Nested :=
  hrun.invariant (fun _ v ↦ Nested v) (fun _ _ _ ht hv ↦ hv.of_acts ht) (n := 0) h

/-- Each piece of a scan stands in constructs that are nested well. -/
theorem Nested.frames_of_mem_scan {s : Stack} {line : List Char} (h : s.Nested) {p : Piece}
    (hp : p ∈ (scan s line).1) : p.frames.Nested := by
  obtain ⟨before, after, hpieces⟩ := List.append_of_mem hp
  obtain ⟨done, u, c, rest, inner, outer, hrun, hinner, -⟩ :=
    (scans_scan s line).exists_step_of_eq hpieces
  have hacts := acts_scanStep u c rest
  have hu := h.of_scans hrun
  have hmem : p ∈ (scanStep u c rest).pieces := by
    rw [hinner]
    exact List.mem_append_right _ List.mem_cons_self
  rcases (hacts.frames_of_mem hmem).1 with hframes | hframes
  · rwa [hframes]
  · rw [hframes]
    exact hu.of_acts hacts

/-! ### The depth of comments -/

theorem DepthWithin.mono {s : Stack} {bound more : Nat} (h : s.DepthWithin bound)
    (hle : bound ≤ more) : s.DepthWithin more :=
  fun depth hmem ↦ ⟨(h depth hmem).1, (h depth hmem).2.trans hle⟩

theorem DepthWithin.subset {s u : Stack} {bound : Nat} (h : s.DepthWithin bound) (hu : u ⊆ s) :
    u.DepthWithin bound :=
  fun depth hmem ↦ h depth (hu hmem)

/-- A comment in front of the others keeps a bound that it keeps itself. -/
theorem DepthWithin.cons_blockComment {s : Stack} {bound : Nat} {depth : UInt64}
    (h : s.DepthWithin bound) (hone : 1 ≤ depth.toNat) (hle : depth.toNat ≤ bound) :
    DepthWithin bound (.blockComment depth :: s) := by
  intro d hmem
  rcases List.mem_cons.1 hmem with heq | hmem
  · obtain rfl := Frame.blockComment.inj heq
    exact ⟨hone, hle⟩
  · exact h d hmem

/-- Any other construct in front of them keeps it too. -/
theorem DepthWithin.cons {s : Stack} {bound : Nat} {f : Frame} (h : s.DepthWithin bound)
    (hf : ∀ depth, f ≠ .blockComment depth) : DepthWithin bound (f :: s) := by
  intro d hmem
  rcases List.mem_cons.1 hmem with heq | hmem
  · exact absurd heq.symm (hf d)
  · exact h d hmem

/--
A step adds at most one level, and only with the two bytes of an opener: with `n` bytes passed
before the step, the bound may be half of `n` above any fixed number, provided that the bound
behind the step fits into the word.
-/
theorem DepthWithin.of_acts {s : Stack} {t : Step} {least n : Nat}
    (h : s.DepthWithin (least + n / 2)) (ht : Step.Acts s t)
    (hfits : least + (n + Text.byteLength t.consumed) / 2 < 2 ^ 64) :
    DepthWithin (least + (n + Text.byteLength t.consumed) / 2) t.stack := by
  have hmono : s.DepthWithin (least + (n + Text.byteLength t.consumed) / 2) := h.mono (by omega)
  cases ht with
  | classify | escape | plain | member => exact hmono
  | @opens _ f hs hf =>
    cases f with
    | blockComment depth =>
      obtain rfl := hf depth rfl
      -- the opener takes two bytes, which is room for the one level of a new comment
      have hlen : Text.byteLength (Step.openFrame s (.blockComment 1)
          (Frame.blockComment 1).mark (Frame.blockComment 1).opening).consumed = 2 := rfl
      exact hmono.cons_blockComment (by decide) (by rw [hlen, UInt64.toNat_one]; omega)
    | _ => exact hmono.cons (by simp)
  | closes => exact hmono.subset (List.subset_cons_self _ _)
  | @nests depth below =>
    obtain ⟨hone, hle⟩ := h depth (by simp)
    have hlen : Text.byteLength (Step.classify (.blockComment (depth + 1) :: below) .commentMark
      ['/', '*']).consumed = 2 := rfl
    rw [hlen] at hfits hmono ⊢
    have hdepth : (depth + 1).toNat = depth.toNat + 1 := by
      rw [UInt64.toNat_add, UInt64.toNat_one, Nat.mod_eq_of_lt (by omega)]
    exact (hmono.subset (List.subset_cons_self _ _)).cons_blockComment (by omega) (by omega)
  | @unnests depth below =>
    obtain ⟨hone, hle⟩ := hmono depth (by simp)
    have hbelow := hmono.subset (List.subset_cons_self _ _)
    show DepthWithin _ (if _ then _ else _)
    split
    · exact hbelow
    · next hne =>
      have hdepth : (depth - 1).toNat = depth.toNat - 1 :=
        UInt64.toNat_sub_of_le _ _ (UInt64.le_iff_toNat_le.2 hone)
      have hpos : (depth - 1).toNat ≠ 0 := fun h ↦ hne (UInt64.toNat_inj.1 h)
      exact hbelow.cons_blockComment (by omega) (by omega)

/-- Every scan position keeps the bound that the bytes passed give. -/
theorem DepthWithin.of_scans {s u : Stack} {line rest : List Char} {pieces : List Piece}
    {least n : Nat} (h : s.DepthWithin (least + n / 2)) (hrun : Scans s line pieces u rest)
    (hfits : least + (n + Text.byteLength (Piece.textOf pieces)) / 2 < 2 ^ 64) :
    u.DepthWithin (least + (n + Text.byteLength (Piece.textOf pieces)) / 2) := by
  refine hrun.invariant (fun m v ↦ least + m / 2 < 2 ^ 64 → DepthWithin (least + m / 2) v) ?_
    (n := n) (fun _ ↦ h) hfits
  intro m v t ht hv hlt
  exact (hv (by omega)).of_acts ht hlt

/-! ### From line to line -/

/-- A line leaves the stack of its scan, without what cannot outlive the line. -/
theorem tokenizeLine_stack (line : List Char) (s : Stack) :
    (tokenizeLine line s).stack = (scan s line).2.endLine :=
  rfl

/-- The end of a line closes constructs and opens none. -/
theorem endLine_suffix (s : Stack) : s.endLine <:+ s :=
  List.dropWhile_suffix _

/-- What is open stays nested at the end of a line. -/
theorem Nested.endLine {s : Stack} (h : s.Nested) : s.endLine.Nested := by
  induction s with
  | nil => exact h
  | cons f below ih =>
    rw [Stack.endLine, List.dropWhile_cons]
    split
    · exact ih h.tail
    · exact h

/-- **A line keeps the stack nested**, whatever it holds. -/
theorem Nested.tokenizeLine {s : Stack} (h : s.Nested) (line : List Char) :
    (tokenizeLine line s).stack.Nested :=
  (h.of_scans (scans_scan s line)).endLine

theorem Nested.afterLines {s : Stack} (h : s.Nested) (lines : List (List Char)) :
    (s.afterLines lines).Nested := by
  induction lines generalizing s with
  | nil => exact h
  | cons line lines ih => exact ih (h.tokenizeLine line)

/-- **A comment gets deeper by one for every two bytes of a line, at most.** -/
theorem DepthWithin.tokenizeLine {s : Stack} {least n : Nat} (h : s.DepthWithin (least + n / 2))
    {line : List Char} (hfits : least + (n + Text.byteLength line) / 2 < 2 ^ 64) :
    (tokenizeLine line s).stack.DepthWithin (least + (n + Text.byteLength line) / 2) := by
  have hscan := h.of_scans (scans_scan s line) (by rwa [textOf_scan])
  rw [textOf_scan] at hscan
  exact hscan.subset (endLine_suffix _).subset

/-- Over many lines the bytes of all of them bound the depth. -/
theorem DepthWithin.afterLines {s : Stack} {least n : Nat} (h : s.DepthWithin (least + n / 2))
    {lines : List (List Char)}
    (hfits : least + (n + (lines.map Text.byteLength).sum) / 2 < 2 ^ 64) :
    (s.afterLines lines).DepthWithin (least + (n + (lines.map Text.byteLength).sum) / 2) := by
  induction lines generalizing s n with
  | nil => exact h
  | cons line lines ih =>
    rw [List.map_cons, List.sum_cons, ← Nat.add_assoc] at hfits ⊢
    exact ih (h.tokenizeLine (by omega)) hfits

end Stack

namespace Document

/-- Classifying the lines of a document leaves the stack that their scans leave. -/
theorem Line.snd_classify (number : Nat) (s : Stack) (lines : List Text.Line) :
    (Line.classify number s lines).2 = s.afterLines (lines.map Text.Line.text) := by
  induction lines generalizing number s with
  | nil => rfl
  | cons line lines ih => exact ih (number + 1) (tokenizeLine line.text s).stack

/-- A document ends with the stack that its lines leave. -/
theorem stack_ofText (text : List Char) :
    (ofText text).stack = Stack.afterLines [] ((Text.lines text).map Text.Line.text) :=
  Line.snd_classify 0 [] (Text.lines text)

end Document

end RonWorkbench
