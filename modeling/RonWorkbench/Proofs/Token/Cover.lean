import RonWorkbench.Proofs.Scan.Run
import RonWorkbench.Proofs.Text.Cut
import RonWorkbench.Token

/-!
# Tokens cover their line

The tokens of a line are a partition of it (`Token.Covers`): they begin at its start, follow one
another without gap or overlap, end at its end, none is empty and each cuts the line at character
boundaries. And each carries the scopes of the place where it was cut off (`Token.EmittedIn`): the
root, the constructs open there from the outermost to the innermost, and at most one leaf.

Two steps lead from a scan to its tokens, and both keep the text. Joining makes blocks of pieces
(`Piece.exists_blocks`): a block is one piece with the plain pieces that are merged into it.
Layout turns lengths into offsets. So what the tokens cover is the text of the pieces, and that
is the line, because a scan is a run to the end (`Scans.textOf_append`).
-/

namespace RonWorkbench

/-! ### Blocks of pieces that become one -/

namespace Piece

/-- A piece with the text of further ones. -/
def merge (block : Piece × List Piece) : Piece :=
  { block.1 with text := block.1.text ++ textOf block.2 }

/-- The pieces of a block. -/
def members (block : Piece × List Piece) : List Piece :=
  block.1 :: block.2

/-- The later piece has no more to say than the earlier one: both are plain, with equal scopes. -/
def Absorbs (p q : Piece) : Prop :=
  p.isPlain ∧ q.isPlain ∧ p.frames.scopes = q.frames.scopes

/-- A piece is joined to the next if both are plain and stand in the same constructs. -/
theorem join_cons_eq {p q : Piece} {more rest : List Piece} (h : join more = q :: rest) :
    join (p :: more) =
      if p.isPlain && q.isPlain && p.frames.scopes == q.frames.scopes then
        { p with text := p.text ++ q.text } :: rest
      else
        p :: q :: rest := by
  simp only [join, h]

/-- Joined pieces are blocks of the pieces in their order, each merged into its first. -/
theorem exists_blocks (pieces : List Piece) :
    ∃ blocks : List (Piece × List Piece),
      pieces = blocks.flatMap members ∧ join pieces = blocks.map merge ∧
        ∀ block ∈ blocks, ∀ q ∈ block.2, block.1.Absorbs q := by
  induction pieces with
  | nil => exact ⟨[], rfl, rfl, by simp⟩
  | cons p more ih =>
    obtain ⟨blocks, hmore, hjoin, habsorbs⟩ := ih
    cases blocks with
    | nil =>
      refine ⟨[(p, [])], by simp [hmore, members], ?_, by simp⟩
      rw [join, hjoin]
      simp [merge]
    | cons first blocks =>
      obtain ⟨q, block⟩ := first
      rw [List.map_cons] at hjoin
      rw [join_cons_eq hjoin]
      split
      · next hmerge =>
        -- the new piece becomes the head of the first block
        simp only [merge, Bool.and_eq_true, beq_iff_eq] at hmerge
        obtain ⟨⟨hp, hq⟩, hscopes⟩ := hmerge
        refine ⟨(p, q :: block) :: blocks, by simp [hmore, members], by simp [merge], ?_⟩
        rintro ⟨first, others⟩ hmem r hr
        rcases List.mem_cons.1 hmem with heq | hmem
        · obtain ⟨rfl, rfl⟩ := Prod.mk.inj heq
          rcases List.mem_cons.1 hr with rfl | hr
          · exact ⟨hp, hq, hscopes⟩
          · obtain ⟨-, hplain, hsame⟩ := habsorbs (q, block) (by simp) r hr
            exact ⟨hp, hplain, hscopes.trans hsame⟩
        · exact habsorbs (first, others) (List.mem_cons_of_mem _ hmem) r hr
      · -- the new piece is a block of its own
        refine ⟨(p, []) :: (q, block) :: blocks, by simp [hmore, members], by simp [merge], ?_⟩
        intro b hb
        rcases List.mem_cons.1 hb with rfl | hb
        · simp
        · exact habsorbs b hb

theorem textOf_members (block : Piece × List Piece) :
    textOf (members block) = (merge block).text :=
  rfl

theorem textOf_flatMap_members (blocks : List (Piece × List Piece)) :
    textOf (blocks.flatMap members) = textOf (blocks.map merge) := by
  induction blocks with
  | nil => rfl
  | cons block blocks ih =>
    rw [List.flatMap_cons, textOf_append, ih, textOf_members, List.map_cons, textOf_cons]

/-- Joining keeps the text. -/
@[simp]
theorem textOf_join (pieces : List Piece) : textOf (join pieces) = textOf pieces := by
  obtain ⟨blocks, hpieces, hjoin, -⟩ := exists_blocks pieces
  rw [hjoin, hpieces, textOf_flatMap_members]

/-- A joined piece is a block of the pieces behind the text in front of it. -/
theorem exists_block_of_join_eq {pieces before after : List Piece} {q : Piece}
    (h : join pieces = before ++ q :: after) :
    ∃ (front : List Piece) (p : Piece) (others back : List Piece),
      pieces = front ++ p :: (others ++ back) ∧ textOf front = textOf before ∧
        q = merge (p, others) ∧ ∀ r ∈ others, p.Absorbs r := by
  obtain ⟨blocks, hpieces, hjoin, habsorbs⟩ := exists_blocks pieces
  obtain ⟨left, right, rfl, hleft, hright⟩ := List.map_eq_append_iff.1 (hjoin.symm.trans h)
  obtain ⟨block, right, rfl, hq, -⟩ := List.map_eq_cons_iff.1 hright
  obtain ⟨p, others⟩ := block
  refine ⟨left.flatMap members, p, others, right.flatMap members, ?_, ?_, hq.symm, ?_⟩
  · rw [hpieces, List.flatMap_append, List.flatMap_cons, members, List.cons_append]
  · rw [textOf_flatMap_members, hleft]
  · exact habsorbs (p, others) (List.mem_append_right _ List.mem_cons_self)

/-- A joined piece begins with a piece that has its frames and its leaf. -/
theorem exists_of_join_eq {pieces before after : List Piece} {q : Piece}
    (h : join pieces = before ++ q :: after) :
    ∃ (front : List Piece) (p : Piece) (back : List Piece), pieces = front ++ p :: back ∧
      textOf front = textOf before ∧ p.frames = q.frames ∧ p.leaf = q.leaf ∧
        ∃ more, q.text = p.text ++ more := by
  obtain ⟨front, p, others, back, hpieces, hfront, rfl, -⟩ := exists_block_of_join_eq h
  exact ⟨front, p, others ++ back, hpieces, hfront, rfl, rfl, textOf others, rfl⟩

/-- A joined piece begins with a piece of the scan, in the same constructs and of the same kind. -/
theorem exists_mem_of_mem_join {pieces : List Piece} {q : Piece} (hq : q ∈ join pieces) :
    ∃ p ∈ pieces, p.frames = q.frames ∧ p.leaf = q.leaf ∧ ∃ more, q.text = p.text ++ more := by
  obtain ⟨before, after, hsplit⟩ := List.append_of_mem hq
  obtain ⟨front, p, back, hpieces, -, hframes, hleaf, hmore⟩ := exists_of_join_eq hsplit
  exact ⟨p, by simp [hpieces], hframes, hleaf, hmore⟩

end Piece

/-! ### Layout -/

namespace Token

/-- A token is a piece at the offset of the text in front of it. -/
theorem exists_of_mem_layout {offset : Nat} {pieces : List Piece} {t : Token}
    (h : t ∈ layout offset pieces) :
    ∃ (before : List Piece) (p : Piece) (after : List Piece), pieces = before ++ p :: after ∧
      t.start = offset + Text.byteLength (Piece.textOf before) ∧
        t.stop = t.start + Text.byteLength p.text ∧ t.scopes = p.scopes := by
  induction pieces generalizing offset with
  | nil => simp [layout] at h
  | cons p pieces ih =>
    rw [layout] at h
    rcases List.mem_cons.1 h with rfl | h
    · exact ⟨[], p, pieces, rfl, by simp, rfl, rfl⟩
    · obtain ⟨before, q, after, rfl, hstart, hstop, hscopes⟩ := ih h
      refine ⟨p :: before, q, after, rfl, ?_, hstop, hscopes⟩
      rw [hstart, Piece.textOf_cons, Text.byteLength_append, Nat.add_assoc]

/-- The first token starts where the layout does. -/
theorem start_of_mem_head?_layout {offset : Nat} {pieces : List Piece} {t : Token}
    (h : t ∈ (layout offset pieces).head?) : t.start = offset := by
  cases pieces with
  | nil => simp [layout] at h
  | cons p pieces =>
    obtain rfl : _ = t := by simpa [layout] using h
    rfl

/-- Each token starts where the one before it stops. -/
theorem isChain_layout (offset : Nat) (pieces : List Piece) :
    (layout offset pieces).IsChain fun a b ↦ a.stop = b.start := by
  induction pieces generalizing offset with
  | nil => simp [layout]
  | cons p pieces ih =>
    have h := ih (offset + Text.byteLength p.text)
    cases pieces with
    | nil => simp [layout]
    | cons q pieces => exact List.isChain_cons_cons.2 ⟨rfl, h⟩

/-- The last token stops where the text of the pieces ends. -/
theorem getLast?_stop_layout (offset : Nat) (pieces : List Piece) :
    ((layout offset pieces).getLast?.map stop).getD offset =
      offset + Text.byteLength (Piece.textOf pieces) := by
  induction pieces generalizing offset with
  | nil => simp [layout]
  | cons p pieces ih =>
    have h := ih (offset + Text.byteLength p.text)
    cases pieces with
    | nil => simp [layout]
    | cons q pieces =>
      rw [layout, layout, List.getLast?_cons_cons]
      rw [layout, List.getLast?_cons, Option.map_some, Option.getD_some] at h
      rw [List.getLast?_cons, Option.map_some, Option.getD_some, h, Piece.textOf_cons p,
        Text.byteLength_append, Nat.add_assoc]

/-- No token is empty if no piece is. -/
theorem start_lt_stop_of_mem_layout {offset : Nat} {pieces : List Piece}
    (hne : ∀ p ∈ pieces, p.text ≠ []) {t : Token} (h : t ∈ layout offset pieces) :
    t.start < t.stop := by
  obtain ⟨before, p, after, rfl, -, hstop, -⟩ := exists_of_mem_layout h
  have hpos := Text.byteLength_pos (hne p (by simp))
  omega

/-- **Pieces that are laid out cut their text without a gap.** -/
theorem isPartition_layout (offset : Nat) {pieces : List Piece}
    (hne : ∀ p ∈ pieces, p.text ≠ []) :
    isPartition (offset + Text.byteLength (Piece.textOf pieces)) offset
      ((layout offset pieces).map fun t ↦ (t.start, t.stop)) := by
  induction pieces generalizing offset with
  | nil => simp [layout, isPartition]
  | cons p pieces ih =>
    have hpos := Text.byteLength_pos (hne p (by simp))
    have h := ih (offset + Text.byteLength p.text) fun q hq ↦ hne q (List.mem_cons_of_mem _ hq)
    rw [layout, List.map_cons, isPartition, Piece.textOf_cons, Text.byteLength_append,
      ← Nat.add_assoc, h]
    simp [hpos]

/-- The texts of the tokens in their line are the texts of the pieces. -/
theorem map_text?_layout (before : List Char) (pieces : List Piece) :
    (layout (Text.byteLength before) pieces).map
        (fun t ↦ t.text? (before ++ Piece.textOf pieces)) =
      (pieces.map Piece.text).map some := by
  induction pieces generalizing before with
  | nil => rfl
  | cons p pieces ih =>
    have h := ih (before ++ p.text)
    rw [Text.byteLength_append, List.append_assoc] at h
    rw [layout, List.map_cons, List.map_cons, List.map_cons, Piece.textOf_cons, h, text?,
      Text.slice?_append]

/-! ### The tokens of a line -/

/-- Tokens that are an exact partition of a line into texts of its own. -/
structure Covers (line : List Char) (tokens : List Token) : Prop where
  /-- The first token starts with the line. -/
  head_start : ∀ t ∈ tokens.head?, t.start = 0
  /-- Each token starts where the one before it stops. -/
  contiguous : tokens.IsChain fun a b ↦ a.stop = b.start
  /-- The last token stops with the line; only an empty line has no token. -/
  last_stop : (tokens.getLast?.map stop).getD 0 = Text.byteLength line
  /-- No token is empty. -/
  start_lt_stop : ∀ t ∈ tokens, t.start < t.stop
  /-- Each token has a text in the line, and the texts make up the line. -/
  texts : ∃ texts : List (List Char),
    tokens.map (fun t ↦ t.text? line) = texts.map some ∧ texts.flatten = line
  /-- The check of a partition accepts the spans. -/
  isPartition : isPartition (Text.byteLength line) 0 (tokens.map fun t ↦ (t.start, t.stop))

/-- Each token of a cover has a text in the line. -/
theorem Covers.exists_text? {line : List Char} {tokens : List Token} (h : Covers line tokens)
    {t : Token} (ht : t ∈ tokens) : ∃ inside, t.text? line = some inside ∧ inside ≠ [] := by
  obtain ⟨texts, htexts, -⟩ := h.texts
  have hmem : t.text? line ∈ texts.map some := by
    rw [← htexts]
    exact List.mem_map_of_mem ht
  obtain ⟨inside, -, hinside⟩ := List.mem_map.1 hmem
  refine ⟨inside, hinside.symm, ?_⟩
  rintro rfl
  obtain ⟨before, after, -, -, hstop⟩ := Text.slice?_eq_some_iff.1 hinside.symm
  have hlt := h.start_lt_stop t ht
  rw [Text.byteLength_nil] at hstop
  omega

/-- Pieces that are not empty cover their text. -/
theorem covers_layout {pieces : List Piece} (hne : ∀ p ∈ pieces, p.text ≠ []) :
    Covers (Piece.textOf pieces) (layout 0 pieces) where
  head_start _ ht := start_of_mem_head?_layout ht
  contiguous := isChain_layout 0 pieces
  last_stop := (getLast?_stop_layout 0 pieces).trans (Nat.zero_add _)
  start_lt_stop _ ht := start_lt_stop_of_mem_layout hne ht
  texts := ⟨pieces.map Piece.text, map_text?_layout [] pieces, rfl⟩
  isPartition := by simpa using isPartition_layout 0 hne

/--
The token starts with a piece that the scan of the line cuts off at the same place, and its scopes
are the root, the constructs open for that piece, outermost first, and at most one leaf. The
constructs open for a piece are those on the stack before its step or those behind it: an opener
stands inside the construct that it opens, a closer inside the one that it closes.
-/
def EmittedIn (s : Stack) (line : List Char) (t : Token) : Prop :=
  ∃ (done : List Piece) (u : Stack) (c : Char) (rest : List Char)
    (inner : List Piece) (p : Piece) (outer : List Piece),
    Scans s line done u (c :: rest) ∧ (scanStep u c rest).pieces = inner ++ p :: outer ∧
      t.start = Text.byteLength (Piece.textOf (done ++ inner)) ∧
      (p.frames = u ∨ p.frames = (scanStep u c rest).stack) ∧
      t.scopes = .source :: (p.frames.reverse.map Frame.scope ++ p.leaf.toList) ∧
      ∀ leaf ∈ p.leaf, leaf.isLeaf

end Token

theorem text_ne_nil_of_mem_join_scan {s : Stack} {line : List Char} {q : Piece}
    (hq : q ∈ Piece.join (scan s line).1) : q.text ≠ [] := by
  obtain ⟨p, hp, -, -, more, htext⟩ := Piece.exists_mem_of_mem_join hq
  simp [htext, text_ne_nil_of_mem_scan hp]

/-- **The tokens of a line cover it**, each with a piece of its text. -/
theorem covers_tokenizeLine (line : List Char) (s : Stack) :
    Token.Covers line (tokenizeLine line s).tokens := by
  have h := Token.covers_layout fun q (hq : q ∈ Piece.join (scan s line).1) ↦
    text_ne_nil_of_mem_join_scan hq
  rwa [Piece.textOf_join, textOf_scan] at h

/-- **Each token of a line begins with a piece of its scan**, and has the scopes of that piece. -/
theorem exists_scan_eq_of_mem_tokenizeLine {line : List Char} {s : Stack} {t : Token}
    (ht : t ∈ (tokenizeLine line s).tokens) :
    ∃ (front : List Piece) (p : Piece) (back : List Piece), (scan s line).1 = front ++ p :: back ∧
      t.start = Text.byteLength (Piece.textOf front) ∧ t.scopes = p.scopes := by
  obtain ⟨before, q, after, hjoin, hstart, -, hscopes⟩ := Token.exists_of_mem_layout ht
  obtain ⟨front, p, back, hpieces, hfront, hframes, hleaf, -⟩ := Piece.exists_of_join_eq hjoin
  refine ⟨front, p, back, hpieces, ?_, ?_⟩
  · rw [hstart, hfront, Nat.zero_add]
  · rw [hscopes, Piece.scopes, Piece.scopes, hframes, hleaf]

/-- Every token has the scopes of a piece of the scan. -/
theorem exists_mem_scan_of_mem_tokenizeLine {line : List Char} {s : Stack} {t : Token}
    (ht : t ∈ (tokenizeLine line s).tokens) : ∃ p ∈ (scan s line).1, t.scopes = p.scopes := by
  obtain ⟨front, p, back, hpieces, -, hscopes⟩ := exists_scan_eq_of_mem_tokenizeLine ht
  exact ⟨p, by simp [hpieces], hscopes⟩

/-- **A token has the scopes of constructs that were open at a step of its line**, and one leaf at
most. -/
theorem emittedIn_of_mem_tokenizeLine {line : List Char} {s : Stack} {t : Token}
    (ht : t ∈ (tokenizeLine line s).tokens) : t.EmittedIn s line := by
  obtain ⟨front, p, back, hpieces, hstart, hscopes⟩ := exists_scan_eq_of_mem_tokenizeLine ht
  obtain ⟨done, u, c, rest, inner, outer, hrun, hinner, rfl⟩ :=
    (scans_scan s line).exists_step_of_eq hpieces
  obtain ⟨hopen, hleaves⟩ := (acts_scanStep u c rest).frames_of_mem (p := p) (by simp [hinner])
  refine ⟨done, u, c, rest, inner, p, outer, hrun, hinner, hstart, hopen, ?_, hleaves⟩
  rw [hscopes, Piece.scopes, Stack.scopes, List.map_reverse, List.cons_append]

/-! ### The parts of a token's scopes -/

/-- The scopes of the open constructs, outermost first. -/
def Stack.around (s : Stack) : List Scope :=
  (s.map Frame.scope).reverse

/-- The innermost construct gives the last of the scopes around a token. -/
@[simp]
theorem Stack.around_cons (f : Frame) (s : Stack) : around (f :: s) = around s ++ [f.scope] := by
  simp [around]

namespace Token

/-- The scopes of the constructs in which the token stands: all but the root and the leaf. -/
def around (t : Token) : List Scope :=
  t.scopes.filter Scope.isFrame

/-- The scope that says what the token is, if there is one. -/
def leaf? (t : Token) : Option Scope :=
  t.scopes.find? Scope.isLeaf

variable {t : Token} {p : Piece}

/-- The scopes around a token are those of the constructs around its piece. -/
theorem around_eq (h : t.scopes = p.scopes) (hleaf : ∀ leaf ∈ p.leaf, leaf.isLeaf) :
    t.around = p.frames.around := by
  have hleaves : p.leaf.toList.filter Scope.isFrame = [] := by
    refine List.filter_eq_nil_iff.2 fun leaf hmem ↦ ?_
    have hne := hleaf leaf (by simpa using hmem)
    simp only [Scope.isLeaf, Bool.and_eq_true, Bool.not_eq_eq_eq_not] at hne
    simp [hne.2]
  have hroot : Scope.source.isFrame = false := rfl
  rw [around, h, Piece.scopes, List.filter_append, hleaves, List.append_nil]
  simp [Stack.scopes, Stack.around, Frame.isFrame_scope, hroot]

theorem leaf?_eq (h : t.scopes = p.scopes) (hleaf : ∀ leaf ∈ p.leaf, leaf.isLeaf) :
    t.leaf? = p.leaf := by
  have hframes : p.frames.scopes.find? Scope.isLeaf = none := by
    simp [Stack.scopes, Scope.isLeaf, Frame.isFrame_scope]
  rw [leaf?, h, Piece.scopes, List.find?_append, hframes, Option.none_or]
  cases hp : p.leaf with
  | none => rfl
  | some leaf => simpa [hp] using hleaf

/-- The root, the constructs and the leaf are all that there is. -/
theorem scopes_eq (h : t.scopes = p.scopes) (hleaf : ∀ leaf ∈ p.leaf, leaf.isLeaf) :
    t.scopes = .source :: (t.around ++ t.leaf?.toList) := by
  rw [around_eq h hleaf, leaf?_eq h hleaf, h]
  rfl

end Token

/-- What says what a piece is, is a leaf. -/
theorem isLeaf_of_mem_scan {s : Stack} {line : List Char} {p : Piece} (hp : p ∈ (scan s line).1) :
    ∀ leaf ∈ p.leaf, leaf.isLeaf :=
  forall_mem_scan (fun s c line _ hp ↦ ((acts_scanStep s c line).frames_of_mem hp).2) hp

/--
**The tokens of a line.** From every stack the scan of a line comes to the end of the line, its
tokens cover the line exactly, and each token carries the scopes of the place where it was cut off.
-/
theorem tokenizeLine_partition (line : List Char) (s : Stack) :
    (∃ pieces u, Scans s line pieces u [] ∧
      tokenizeLine line s = ⟨Token.layout 0 (Piece.join pieces), u.endLine⟩) ∧
    Token.Covers line (tokenizeLine line s).tokens ∧
    ∀ t ∈ (tokenizeLine line s).tokens, t.EmittedIn s line :=
  ⟨⟨_, _, scans_scan s line, rfl⟩, covers_tokenizeLine line s,
    fun _ ht ↦ emittedIn_of_mem_tokenizeLine ht⟩

end RonWorkbench
