import RonWorkbench.Proofs.Token.Inside

/-!
# Constructs along the tokens of a line

From one token of a line to the next the constructs around the text change at delimiters only: one
is left behind its closer, and one is entered with its opener (`Excerpt.Nest`). Both delimiters
stand inside the construct, so they carry its scope (`tokenizeLine_nest`).

Each action of a step is of this form (`Step.Acts.nest`), and actions one after another are too
(`Scans.nest`). Plain pieces neither open nor close anything, which is why joining them changes
nothing; and a token shows what its piece shows, since a leaf is never the scope of a construct.
-/

namespace RonWorkbench

/-- What a stretch of a line shows: its text, the scopes of the constructs around it, its leaf. -/
structure Excerpt where
  text : Option (List Char)
  around : List Scope
  leaf : Option Scope
  deriving Repr, DecidableEq

namespace Excerpt

/-- The stretch is the opener of the construct. -/
def IsOpener (x : Excerpt) (f : Frame) : Prop :=
  x.text = some f.opening ∧ x.leaf = some f.mark

/-- The stretch is a closer of the construct. -/
def IsCloser (x : Excerpt) (f : Frame) : Prop :=
  x.text = some f.closing ∧ x.leaf = some f.mark

/--
Stretches one behind the other, between the constructs that are open in front of them and those that
are open behind them. A stretch stands in what is open in front of it, or else it is the opener of
one construct more; behind it the same is open as around it, or else it is a closer of the innermost
construct and that one is open no more.
-/
inductive Nest : List Scope → List Excerpt → List Scope → Prop
  | nil (around : List Scope) : Nest around [] around
  | cons {before behind last : List Scope} {x : Excerpt} {more : List Excerpt}
      (hbefore : x.around = before ∨ ∃ f, x.IsOpener f ∧ x.around = before ++ [f.scope])
      (hbehind : x.around = behind ∨ ∃ f, x.IsCloser f ∧ x.around = behind ++ [f.scope])
      (hmore : Nest behind more last) : Nest before (x :: more) last

namespace Nest

variable {before middle last : List Scope} {x : Excerpt} {xs ys : List Excerpt}

theorem append (h : Nest before xs middle) (h' : Nest middle ys last) :
    Nest before (xs ++ ys) last := by
  induction h with
  | nil => exact h'
  | cons hbefore hbehind _ ih => exact .cons hbefore hbehind (ih h')

/-- A stretch at which nothing changes. -/
theorem inside (hx : x.around = before) (h : Nest before xs last) : Nest before (x :: xs) last :=
  .cons (.inl hx) (.inl hx) h

/-- At a stretch without a leaf nothing changes. -/
theorem of_leaf_eq_none (h : Nest before (x :: xs) last) (hx : x.leaf = none) :
    x.around = before ∧ Nest x.around xs last := by
  cases h with
  | cons hbefore hbehind hmore =>
    rcases hbefore with rfl | ⟨f, hf, -⟩
    · rcases hbehind with rfl | ⟨f, hf, -⟩
      · exact ⟨rfl, hmore⟩
      · simp [IsCloser, hx] at hf
    · simp [IsOpener, hx] at hf

end Nest

end Excerpt

/-- What a piece shows. -/
def Piece.excerpt (p : Piece) : Excerpt :=
  ⟨some p.text, p.frames.around, p.leaf⟩

/-- What a token of the line shows. -/
def Token.excerpt (line : List Char) (t : Token) : Excerpt :=
  ⟨t.text? line, t.around, t.leaf?⟩

/-! ### Along a scan -/

open Excerpt (Nest)

/-- The scopes around a comment do not tell how deep it is. -/
theorem Stack.around_blockComment (depth other : UInt64) (below : Stack) :
    around (.blockComment depth :: below) = around (.blockComment other :: below) := by
  simp [Frame.scope]

/-- **A step changes what is open at a delimiter, which stands inside its construct.** -/
theorem Step.Acts.nest {s : Stack} {t : Step} (h : Step.Acts s t) :
    Nest s.around (t.pieces.map Piece.excerpt) t.stack.around := by
  cases h with
  | classify | escape | plain => exact .inside rfl (.nil _)
  | member =>
    refine .inside rfl ?_
    rw [List.map_append]
    refine Nest.append ?_ (.inside rfl (.nil _))
    split
    · exact .nil _
    · exact .inside rfl (.nil _)
  | @opens _ f =>
    have hframes := Stack.around_cons f s
    exact .cons (.inr ⟨f, ⟨rfl, rfl⟩, hframes⟩) (.inl rfl) (.nil _)
  | @closes f below =>
    have hframes := Stack.around_cons f below
    exact .cons (.inl rfl) (.inr ⟨f, ⟨rfl, rfl⟩, hframes⟩) (.nil _)
  | @nests depth below =>
    have hframes := Stack.around_blockComment (depth + 1) depth below
    exact .cons (.inl hframes) (.inl rfl) (.nil _)
  -- Unnesting closes the comment or leaves it open, and its mark stands in the comment either way.
  | @unnests depth below =>
    refine .cons (.inl rfl) ?_ (.nil _)
    show _ = Stack.around (if _ then _ else _) ∨ _
    split
    · have hframes := Stack.around_cons (.blockComment depth) below
      exact .inr ⟨.blockComment depth, ⟨rfl, rfl⟩, hframes⟩
    · exact .inl (Stack.around_blockComment depth (depth - 1) below)

/-- **So does a run.** -/
theorem Scans.nest {s u : Stack} {line rest : List Char} {pieces : List Piece}
    (h : Scans s line pieces u rest) : Nest s.around (pieces.map Piece.excerpt) u.around := by
  induction h with
  | refl => exact .nil _
  | @step s u c line rest pieces _ ih =>
    rw [List.map_append]
    exact (acts_scanStep s c line).nest.append ih

/-! ### Along tokens -/

/-- Plain pieces may be joined: nothing is opened or closed at any of them. -/
theorem Piece.nest_join {pieces : List Piece} {before last : List Scope}
    (h : Nest before (pieces.map excerpt) last) : Nest before ((join pieces).map excerpt) last := by
  induction pieces generalizing before with
  | nil => exact h
  | cons p more ih =>
    cases h with
    | cons hbefore hbehind hmore =>
      have hjoined := Nest.cons hbefore hbehind (ih hmore)
      cases hjoin : join more with
      | nil => rwa [join, hjoin, List.map_singleton, ← List.map_nil, ← hjoin]
      | cons q rest =>
        rw [hjoin, List.map_cons] at hjoined
        rw [join_cons_eq hjoin]
        split
        · next hmerge =>
          simp only [isPlain, Bool.and_eq_true, Option.isNone_iff_eq_none] at hmerge
          obtain ⟨⟨hp, hq⟩, -⟩ := hmerge
          -- Plain pieces neither open nor close anything, so what is joined stands where both
          -- stood.
          obtain ⟨rfl, hnext⟩ := hjoined.of_leaf_eq_none hp
          obtain ⟨hframes, hrest⟩ := hnext.of_leaf_eq_none hq
          rw [hframes] at hrest
          exact .inside rfl hrest
        · exact hjoined

/-- A token shows what its piece shows. -/
theorem Token.map_excerpt_layout (before : List Char) {pieces : List Piece}
    (hleaves : ∀ p ∈ pieces, ∀ leaf ∈ p.leaf, leaf.isLeaf) :
    (layout (Text.byteLength before) pieces).map (excerpt (before ++ Piece.textOf pieces)) =
      pieces.map Piece.excerpt := by
  induction pieces generalizing before with
  | nil => rfl
  | cons p pieces ih =>
    obtain ⟨hp, hpieces⟩ := List.forall_mem_cons.1 hleaves
    have hmore := ih (before ++ p.text) hpieces
    rw [Text.byteLength_append, List.append_assoc] at hmore
    rw [layout, List.map_cons, List.map_cons, Piece.textOf_cons, hmore, excerpt, text?,
      Text.slice?_append, around_eq rfl hp, leaf?_eq rfl hp]
    rfl

theorem isLeaf_of_mem_join_scan {s : Stack} {line : List Char} {q : Piece}
    (hq : q ∈ Piece.join (scan s line).1) : ∀ leaf ∈ q.leaf, leaf.isLeaf := by
  obtain ⟨p, hp, -, hleaf, -⟩ := Piece.exists_mem_of_mem_join hq
  rw [← hleaf]
  exact isLeaf_of_mem_scan hp

theorem map_excerpt_tokenizeLine (line : List Char) (s : Stack) :
    (tokenizeLine line s).tokens.map (Token.excerpt line) =
      (Piece.join (scan s line).1).map Piece.excerpt := by
  have h := Token.map_excerpt_layout [] fun q (hq : q ∈ Piece.join (scan s line).1) ↦
    isLeaf_of_mem_join_scan hq
  rwa [Piece.textOf_join, textOf_scan] at h

/-! ### Delimiters -/

/-- A step after which one construct more is open takes the opener, inside the construct. -/
theorem Step.Acts.pieces_eq_of_opens {u : Stack} {t : Step} {f : Frame} (h : Step.Acts u t)
    (hstack : t.stack = f :: u) : t.pieces = [⟨f.opening, f :: u, some f.mark⟩] := by
  -- all other steps leave a stack that is too short
  have hlength : t.stack.length = u.length + 1 := by rw [hstack, List.length_cons]
  cases h with
  | opens =>
    obtain ⟨rfl, -⟩ := List.cons.inj hstack
    rfl
  | closes =>
    simp only [Step.closeFrame, List.tail_cons, List.length_cons] at hlength
    omega
  | unnests =>
    dsimp only at hlength
    split at hlength
    · rw [List.length_cons] at hlength
      omega
    · simp at hlength
  | _ => simp [Step.classify, Step.plain] at hlength

/-- A step after which the innermost construct is open no more takes a closer, inside it. -/
theorem Step.Acts.pieces_eq_of_closes {below : Stack} {t : Step} {f : Frame}
    (h : Step.Acts (f :: below) t) (hstack : t.stack = below) :
    t.pieces = [⟨f.closing, f :: below, some f.mark⟩] := by
  -- all other steps leave a stack that is too long
  have hlength : t.stack.length + 1 = (f :: below).length := by rw [hstack, List.length_cons]
  cases h with
  | closes | unnests => rfl
  | opens =>
    simp only [Step.openFrame, Step.classify, List.length_cons] at hlength
    omega
  | _ => simp [Step.classify, Step.plain] at hlength

/-- The token of a classified piece shows what the piece shows. -/
theorem exists_token_of_scans {s u : Stack} {line rest : List Char} {done more : List Piece}
    {p : Piece} (h : Scans s line (done ++ p :: more) u rest) (hp : p.isPlain = false) :
    ∃ t ∈ (tokenizeLine line s).tokens, t.start = Text.byteLength (Piece.textOf done) ∧
      t.excerpt line = p.excerpt := by
  refine ⟨_, mem_tokenizeLine_of_scans h hp, rfl, ?_⟩
  have hmem : p ∈ (scan s line).1 := by simp [h.scan_eq]
  have hleaf := isLeaf_of_mem_scan hmem
  have hline : line = Piece.textOf done ++ (p.text ++ (Piece.textOf more ++ rest)) := by
    rw [← h.textOf_append, Piece.textOf_append, Piece.textOf_cons, List.append_assoc,
      List.append_assoc]
  rw [Token.excerpt, Token.text?, Token.around_eq rfl hleaf, Token.leaf?_eq rfl hleaf, hline,
    Text.slice?_append]
  rfl

/--
**Constructs are nested along the tokens of a line.** The scopes of a token are the root, those of
the constructs around it and at most one leaf. The constructs around the first token are those that
the line starts with, or one more if the token is its opener; from token to token the innermost one
is left behind its closer and a further one is entered with its opener; and those behind the last
token are left open, except for character literals, which are dropped where the line ends.

At every scan position at which a construct is opened or closed, the delimiter is a token, and it
stands inside that construct.
-/
theorem tokenizeLine_nest (line : List Char) (s : Stack) :
    (∀ t ∈ (tokenizeLine line s).tokens, t.scopes = .source :: (t.around ++ t.leaf?.toList)) ∧
    (∃ u : Stack, (tokenizeLine line s).stack = u.endLine ∧
      Excerpt.Nest s.around ((tokenizeLine line s).tokens.map (Token.excerpt line)) u.around) ∧
    ∀ {u : Stack} {c : Char} {rest : List Char} {done : List Piece},
      Scans s line done u (c :: rest) →
        (∀ f, (scanStep u c rest).stack = f :: u →
          ∃ t ∈ (tokenizeLine line s).tokens, t.start = Text.byteLength (Piece.textOf done) ∧
            (t.excerpt line).IsOpener f ∧ t.around = u.around ++ [f.scope]) ∧
        ∀ (f : Frame) (below : Stack), u = f :: below → (scanStep u c rest).stack = below →
          ∃ t ∈ (tokenizeLine line s).tokens, t.start = Text.byteLength (Piece.textOf done) ∧
            (t.excerpt line).IsCloser f ∧ t.around = below.around ++ [f.scope] := by
  refine ⟨fun t ht ↦ ?_, ⟨(scan s line).2, rfl, ?_⟩, fun {u c rest done} hrun ↦ ?_⟩
  · obtain ⟨p, hp, hscopes⟩ := exists_mem_scan_of_mem_tokenizeLine ht
    exact Token.scopes_eq hscopes (isLeaf_of_mem_scan hp)
  · rw [map_excerpt_tokenizeLine]
    exact Piece.nest_join (scans_scan s line).nest
  -- The mark is classified, so it is joined to nothing and is a token by itself.
  · have hacts := acts_scanStep u c rest
    have hnext := hrun.trans (.one u c rest)
    constructor
    · intro f hstack
      rw [hacts.pieces_eq_of_opens hstack] at hnext
      obtain ⟨t, ht, hstart, hexcerpt⟩ := exists_token_of_scans hnext rfl
      refine ⟨t, ht, hstart, ?_, ?_⟩
      · rw [hexcerpt]
        exact ⟨rfl, rfl⟩
      · exact (congrArg Excerpt.around hexcerpt).trans (Stack.around_cons f u)
    · rintro f below rfl hstack
      rw [hacts.pieces_eq_of_closes hstack] at hnext
      obtain ⟨t, ht, hstart, hexcerpt⟩ := exists_token_of_scans hnext rfl
      refine ⟨t, ht, hstart, ?_, ?_⟩
      · rw [hexcerpt]
        exact ⟨rfl, rfl⟩
      · exact (congrArg Excerpt.around hexcerpt).trans (Stack.around_cons f below)

/--
On the line `*/'` inside a comment in a list the comment is closed, and a character literal is
opened in the list; the literal is dropped where the line ends.
-/
theorem tokenizeLine_nest_comment_then_character :
    Scans [.blockComment 1, .group .brackets] ['*', '/', '\''] []
      [.blockComment 1, .group .brackets] ['*', '/', '\''] ∧
    (scanStep [.blockComment 1, .group .brackets] '*' ['/', '\'']).stack = [.group .brackets] ∧
    (∃ t ∈ (tokenizeLine ['*', '/', '\''] [.blockComment 1, .group .brackets]).tokens, t.start = 0 ∧
      (t.excerpt ['*', '/', '\'']).IsCloser (.blockComment 1) ∧
        t.around = [.list, .blockComment]) ∧
    ∃ u : Stack, [.group .brackets] = u.endLine ∧
      Excerpt.Nest [.list, .blockComment]
        [⟨some ['*', '/'], [.list, .blockComment], some .commentMark⟩,
          ⟨some ['\''], [.list, .character], some .characterMark⟩] u.around := by
  obtain ⟨-, ⟨u, hstack, hnest⟩, hdelimiters⟩ :=
    tokenizeLine_nest ['*', '/', '\''] [.blockComment 1, .group .brackets]
  have hstart : Scans [.blockComment 1, .group .brackets] ['*', '/', '\''] []
      [.blockComment 1, .group .brackets] ['*', '/', '\''] := .refl _ _
  have hexcerpts : (tokenizeLine ['*', '/', '\''] [.blockComment 1, .group .brackets]).tokens.map
      (Token.excerpt ['*', '/', '\'']) =
        [⟨some ['*', '/'], [.list, .blockComment], some .commentMark⟩,
          ⟨some ['\''], [.list, .character], some .characterMark⟩] := by decide +kernel
  have hdropped : (tokenizeLine ['*', '/', '\''] [.blockComment 1, .group .brackets]).stack =
      [.group .brackets] := by decide +kernel
  rw [hexcerpts] at hnest
  exact ⟨hstart, rfl, (hdelimiters hstart).2 _ _ rfl rfl, u, hdropped.symm.trans hstack, hnest⟩

end RonWorkbench
