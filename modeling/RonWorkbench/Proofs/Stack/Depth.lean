import RonWorkbench.Proofs.Literal.Comment
import RonWorkbench.Proofs.Stack.Shape

/-!
# How deep comments are counted

The depth of a comment is kept in a word, which the scan moves by one without looking. An opener
inside a comment goes wrong only if the word is full (`Stack.Overflows`), and a closer only if it is
empty (`Stack.Underflows`).

Both are ruled out by counting bytes. A level more costs the two bytes of its opener, so where `n`
bytes have been scanned no comment is deeper than it may have been at first and `n / 2`, and as long
as that fits into a word there is room for each opener (`Stack.not_overflows`). A closer takes away
a level that is there, since a comment that has no level left is not open any more.

The two bounds rest on different facts. That no comment is without a level is kept by each
step that does not overflow, whatever was scanned (`Stack.DepthWithin.of_safe_scans`); and that no
comment is too deep holds even behind an overflow, where the bound is more than a word can hold
(`Stack.toNat_le_of_scans`).
-/

namespace RonWorkbench

namespace Stack

/-- The scan comes to an opener in a comment whose depth is the last that the word can hold. -/
def Overflows (s : Stack) (rest : List Char) : Prop :=
  ∃ depth below more, s = .blockComment depth :: below ∧ rest = '/' :: '*' :: more ∧
    (depth + 1).toNat ≠ depth.toNat + 1

/-- The scan comes to a closer in a comment that has no level to be taken away. -/
def Underflows (s : Stack) (rest : List Char) : Prop :=
  ∃ depth below more, s = .blockComment depth :: below ∧ rest = '*' :: '/' :: more ∧
    (depth - 1).toNat + 1 ≠ depth.toNat

/-- The bytes of whole lines and of what is cut off of a further one. -/
def scannedBytes (lines : List (List Char)) (pieces : List Piece) : Nat :=
  (lines.map Text.byteLength).sum + Text.byteLength (Piece.textOf pieces)

variable {s u : Stack} {bound : Nat} {line rest : List Char} {pieces : List Piece}

/-! ### Closers -/

/-- Where each comment has a level, there is one to be taken away. -/
theorem DepthWithin.not_underflows (h : s.DepthWithin bound) : ¬s.Underflows rest := by
  rintro ⟨depth, below, more, rfl, -, hwrong⟩
  have hone := (h depth List.mem_cons_self).1
  have hle : (1 : UInt64) ≤ depth := UInt64.le_iff_toNat_le.2 hone
  refine hwrong ?_
  rw [UInt64.toNat_sub_of_le _ _ hle, UInt64.toNat_one]
  omega

/-- The last level goes together with the comment. -/
theorem stack_scanStep_closer (depth : UInt64) (below : Stack) (more : List Char) :
    (scanStep (.blockComment depth :: below) '*' ('/' :: more)).stack =
      if depth.toNat = 1 then below else .blockComment (depth - 1) :: below := by
  have hone : depth = 1 ↔ depth.toNat = 1 := by rw [← UInt64.toNat_inj, UInt64.toNat_one]
  rw [Nesting.scanStep_closer]
  exact if_congr hone rfl rfl

/-! ### Openers -/

/--
A step that does not overflow leaves each comment with a level. No word is beyond `2 ^ 64`, so
that bound says nothing of its own.
-/
theorem DepthWithin.of_safe_step {c : Char} (h : s.DepthWithin (2 ^ 64))
    (hsafe : ¬s.Overflows (c :: line)) : DepthWithin (2 ^ 64) (scanStep s c line).stack := by
  have hacts := acts_scanStep s c line
  have hprefix := consumed_scanStep_isPrefix s c line
  generalize scanStep s c line = t at hacts hprefix
  cases hacts with
  | classify | escape | plain | member => exact h
  | @opens _ f hs hf =>
    cases f with
    | blockComment depth =>
      obtain rfl := hf depth rfl
      exact h.cons_blockComment (by decide) (by decide)
    | _ => exact h.cons (by simp)
  | closes => exact h.subset (List.subset_cons_self _ _)
  | @nests depth below =>
    obtain ⟨more, hmore⟩ := hprefix
    -- The counter wraps only if the step overflows, which it does not.
    have hdepth : (depth + 1).toNat = depth.toNat + 1 := by
      by_contra hwrong
      exact hsafe ⟨depth, below, more, rfl, hmore.symm, hwrong⟩
    have hlt := (depth + 1).toNat_lt
    exact (h.subset (List.subset_cons_self _ _)).cons_blockComment (by omega) (by omega)
  | @unnests depth below =>
    have hbelow := h.subset (List.subset_cons_self _ _)
    show DepthWithin _ (if _ then _ else _)
    split
    · exact hbelow
    · next hne =>
      -- A depth of one is closed and never counted down, so nothing underflows.
      have hpos : (depth - 1).toNat ≠ 0 := fun h ↦ hne (UInt64.toNat_inj.1 h)
      have hlt := (depth - 1).toNat_lt
      exact hbelow.cons_blockComment (by omega) (by omega)

/-- **Runs without an overflow leave each comment with a level.** -/
theorem DepthWithin.of_safe_scans (h : s.DepthWithin (2 ^ 64)) (hrun : Scans s line pieces u rest)
    (hsafe : ∀ done v more others, Scans s line done v more → Scans v more others u rest →
      others ≠ [] → ¬v.Overflows more) : u.DepthWithin (2 ^ 64) := by
  induction hrun with
  | refl => exact h
  | @step s u c line rest pieces hmore ih =>
    have hne : (scanStep s c line).pieces ≠ [] := fun hnil ↦
      consumed_scanStep_ne_nil s c line (by rw [Step.consumed, hnil]; rfl)
    have hfirst : ¬s.Overflows (c :: line) :=
      hsafe [] s (c :: line) _ (.refl s _) (.step hmore) (by simp [hne])
    exact ih (h.of_safe_step hfirst) fun done v more others hdone hothers ↦
      hsafe _ v more others (.step hdone) hothers

/-! ### Counting bytes -/

variable {lines : List (List Char)}

/-- As long as the bound fits into a word, it holds at every scan position of further lines. -/
theorem DepthWithin.of_lines_scans (h : s.DepthWithin bound)
    (hrun : Scans (s.afterLines lines) line pieces u rest)
    (hfits : bound + scannedBytes lines pieces / 2 < 2 ^ 64) :
    u.DepthWithin (bound + scannedBytes lines pieces / 2) := by
  have hstart : s.DepthWithin (bound + 0 / 2) := h
  rw [scannedBytes] at hfits ⊢
  have hlines : (s.afterLines lines).DepthWithin
      (bound + (0 + (lines.map Text.byteLength).sum) / 2) := hstart.afterLines (by omega)
  rw [Nat.zero_add] at hlines
  exact hlines.of_scans hrun hfits

/-- **No comment is deeper than it may be**, also where the word has overflown. -/
theorem toNat_le_of_scans (h : s.DepthWithin bound)
    (hrun : Scans (s.afterLines lines) line pieces u rest) {depth : UInt64}
    (hmem : Frame.blockComment depth ∈ u) :
    depth.toNat ≤ bound + scannedBytes lines pieces / 2 := by
  rcases Nat.lt_or_ge (bound + scannedBytes lines pieces / 2) (2 ^ 64) with hfits | hlarge
  · exact (h.of_lines_scans hrun hfits depth hmem).2
  · exact depth.toNat_lt.le.trans hlarge

/-- **There is room for an opener** as long as half of the bytes up to its end fits. -/
theorem not_overflows (h : s.DepthWithin bound)
    (hrun : Scans (s.afterLines lines) line pieces u rest)
    (hfits : bound + (scannedBytes lines pieces + 2) / 2 < 2 ^ 64) : ¬u.Overflows rest := by
  rintro ⟨depth, below, more, rfl, -, hwrong⟩
  have hle := toNat_le_of_scans h hrun List.mem_cons_self
  refine hwrong ?_
  rw [UInt64.toNat_add, UInt64.toNat_one, Nat.mod_eq_of_lt (by omega)]

theorem depthWithin_nil (bound : Nat) : DepthWithin bound [] := by
  simp [DepthWithin]

end Stack

/--
**The depth of comments is counted right.** From a stack whose comments are between one and `bound`
levels deep, a line is scanned such that at each scan position that is come to without an overflow
every comment is at least one level deep, at most one level deeper than `bound` for every two bytes
of the line in front, and no closer underflows.

Over any number of lines nothing overflows as long as `bound` and half of all bytes, those of the
opener included, are less than `2 ^ 64`, and then the same bounds hold. From the empty stack no
comment is ever deeper than half of the bytes. And a closer that takes away the last level closes
the comment in the same step, so that a comment without a level is never open.
-/
theorem commentDepths_fit {bound : Nat} {s : Stack} (h : s.DepthWithin bound) :
    (∀ line pieces u rest, Scans s line pieces u rest →
      (∀ done v more others, Scans s line done v more → Scans v more others u rest →
        others ≠ [] → ¬v.Overflows more) →
      u.DepthWithin (bound + Text.byteLength (Piece.textOf pieces) / 2) ∧ ¬u.Underflows rest) ∧
    (∀ lines line pieces u rest, Scans (s.afterLines lines) line pieces u rest →
      (bound + (Stack.scannedBytes lines pieces + 2) / 2 < 2 ^ 64 → ¬u.Overflows rest) ∧
      (bound + Stack.scannedBytes lines pieces / 2 < 2 ^ 64 →
        u.DepthWithin (bound + Stack.scannedBytes lines pieces / 2) ∧ ¬u.Underflows rest)) ∧
    (∀ lines line pieces u rest, Scans (Stack.afterLines [] lines) line pieces u rest →
      ∀ depth, Frame.blockComment depth ∈ u →
        depth.toNat ≤ Stack.scannedBytes lines pieces / 2) ∧
    ∀ depth below more, (scanStep (.blockComment depth :: below) '*' ('/' :: more)).stack =
      if depth.toNat = 1 then below else .blockComment (depth - 1) :: below := by
  refine ⟨fun line pieces u rest hrun hsafe ↦ ?_, fun lines line pieces u rest hrun ↦ ⟨?_, ?_⟩,
    fun lines line pieces u rest hrun depth hmem ↦ ?_, Stack.stack_scanStep_closer⟩
  · have hword : s.DepthWithin (2 ^ 64) := fun depth hmem ↦ ⟨(h depth hmem).1, depth.toNat_lt.le⟩
    have hpositive := hword.of_safe_scans hrun hsafe
    refine ⟨fun depth hmem ↦ ⟨(hpositive depth hmem).1, ?_⟩, hpositive.not_underflows⟩
    have hline : Scans (s.afterLines []) line pieces u rest := hrun
    have hle := Stack.toNat_le_of_scans h hline hmem
    rwa [Stack.scannedBytes, List.map_nil, List.sum_nil, Nat.zero_add] at hle
  · exact Stack.not_overflows h hrun
  · intro hfits
    have hwithin := h.of_lines_scans hrun hfits
    exact ⟨hwithin, hwithin.not_underflows⟩
  · have hle := Stack.toNat_le_of_scans (Stack.depthWithin_nil 0) hrun hmem
    rwa [Nat.zero_add] at hle

/-- The last opener that the word has room for, and the closer behind it. -/
theorem commentDepths_fit_full :
    Stack.DepthWithin 18446744073709551614 [.blockComment 18446744073709551614] ∧
    Scans [.blockComment 18446744073709551614] ['/', '*', '*', '/']
      [⟨['/', '*'], [.blockComment 18446744073709551615], some .commentMark⟩]
      [.blockComment 18446744073709551615] ['*', '/'] ∧
    ¬Stack.Overflows [.blockComment 18446744073709551614] ['/', '*', '*', '/'] ∧
    Stack.DepthWithin 18446744073709551615 [.blockComment 18446744073709551615] ∧
    ¬Stack.Underflows [.blockComment 18446744073709551615] ['*', '/'] := by
  have hstart : Stack.DepthWithin 18446744073709551614 [.blockComment 18446744073709551614] := by
    intro depth hmem
    obtain rfl : depth = 18446744073709551614 := by simpa using hmem
    decide
  have hrun : Scans [.blockComment 18446744073709551614] ['/', '*', '*', '/']
      [⟨['/', '*'], [.blockComment 18446744073709551615], some .commentMark⟩]
      [.blockComment 18446744073709551615] ['*', '/'] := by
    have hmore : (18446744073709551614 : UInt64) + 1 = 18446744073709551615 := by decide
    have hstep := Nesting.scanStep_opener 18446744073709551614 [] ['*', '/']
    rw [hmore] at hstep
    exact scans_of_scanStep hstep rfl
  obtain ⟨-, hlines, -, -⟩ := commentDepths_fit hstart
  have hroom := (hlines [] ['/', '*', '*', '/'] [] _ _ (.refl _ _)).1 (by decide)
  obtain ⟨hwithin, hcloser⟩ := (hlines [] _ _ _ _ hrun).2 (by decide)
  exact ⟨hstart, hrun, hroom, hwithin, hcloser⟩

/-- Where the word has no room, an opener leaves a comment without a level. -/
example : (scanStep [.blockComment 18446744073709551615] '/' ['*']).stack = [.blockComment 0] := by
  decide

end RonWorkbench
