import RonWorkbench.Proofs.Token.Inside

/-!
# Plain text is merged, and nothing else

The tokens of a line are told here as they come to be, one piece after another in the order of the
scan (`Token.emit`): a plain piece goes to the token in front of it if that has as many scopes as a
plain token has where the piece stands, and the same ones; any other piece is a token of its own.
That the number of scopes is compared with the constructs open for the *later* piece is harmless,
because the last scope of a classified token is a leaf and never that of a construct: equal scopes
are enough to tell that both are plain (`Token.emit_eq`).

So what is done with a piece can be told from tokens alone (`Token.add`), and it leads to the joined
pieces of the line (`Token.foldl_add_layout`). Neighbours that could be merged are not left
(`Piece.isChain_join`), and a plain token that is taken apart is put together again
(`Token.foldl_add_spread`). A classified token is a single piece, which is cut off where the token
starts by what is recognised there (`Piece.CutOffBy`).
-/

namespace RonWorkbench

/-! ### Joining from the left -/

namespace Piece

instance (p q : Piece) : Decidable (p.Absorbs q) :=
  inferInstanceAs (Decidable (_ ∧ _ ∧ _))

/-- A piece in front is joined to the first of the joined ones, or stays alone. -/
theorem join_cons_of_join_eq {p q : Piece} {more rest : List Piece} (h : join more = q :: rest) :
    join (p :: more) =
      if p.Absorbs q then { p with text := p.text ++ q.text } :: rest else p :: q :: rest := by
  rw [join_cons_eq h]
  exact if_congr (by simp [Absorbs, and_assoc]) rfl rfl

/-- A piece takes up the next one before that takes up others. -/
theorem join_cons_cons_of_absorbs {p q : Piece} (h : p.Absorbs q) (more : List Piece) :
    join (p :: q :: more) = join ({ p with text := p.text ++ q.text } :: more) := by
  obtain ⟨hp, hq, hscopes⟩ := h
  cases hjoin : join more with
  | nil =>
    have hnext : join (q :: more) = [q] := by rw [join, hjoin]
    rw [join_cons_of_join_eq hnext, if_pos ⟨hp, hq, hscopes⟩, join, hjoin]
  | cons r rest =>
    -- what the second takes up is just what the first takes up with it
    have hsame : q.Absorbs r ↔ Absorbs { p with text := p.text ++ q.text } r := by
      constructor
      · rintro ⟨-, hr, hnext⟩
        exact ⟨hp, hr, hscopes.trans hnext⟩
      · rintro ⟨-, hr, hnext⟩
        exact ⟨hq, hr, hscopes.symm.trans hnext⟩
    have hnext := join_cons_of_join_eq (p := q) hjoin
    rw [join_cons_of_join_eq hjoin]
    by_cases hr : q.Absorbs r
    · rw [if_pos hr] at hnext
      rw [join_cons_of_join_eq hnext, if_pos ⟨hp, hq, hscopes⟩, if_pos (hsame.1 hr)]
      simp
    · rw [if_neg hr] at hnext
      rw [join_cons_of_join_eq hnext, if_pos ⟨hp, hq, hscopes⟩, if_neg (hsame.not.1 hr)]

/-- A piece that does not take up the next one stays as it is. -/
theorem join_cons_cons_of_not_absorbs {p q : Piece} (h : ¬p.Absorbs q) (more : List Piece) :
    join (p :: q :: more) = p :: join (q :: more) := by
  obtain ⟨outer, rest, hjoin⟩ := exists_join_cons q more
  rw [join_cons_of_join_eq hjoin, hjoin]
  exact if_neg h

/-- **No joined piece could take up the one behind it.** -/
theorem isChain_join (pieces : List Piece) :
    (join pieces).IsChain fun p q ↦ ¬p.Absorbs q := by
  induction pieces with
  | nil => exact .nil
  | cons p more ih =>
    cases hjoin : join more with
    | nil =>
      rw [join, hjoin]
      exact .singleton p
    | cons q rest =>
      rw [hjoin] at ih
      rw [join_cons_of_join_eq hjoin]
      split
      · next habsorbs =>
        cases rest with
        | nil => exact .singleton _
        | cons r rest =>
          -- What is joined to the next has that one's kind and constructs, so it absorbs no more
          -- than that.
          obtain ⟨hq, hrest⟩ := List.isChain_cons_cons.1 ih
          refine List.isChain_cons_cons.2 ⟨fun hr ↦ hq ?_, hrest⟩
          exact ⟨habsorbs.2.1, hr.2.1, habsorbs.2.2.symm.trans hr.2.2⟩
      · next habsorbs => exact List.isChain_cons_cons.2 ⟨habsorbs, ih⟩

end Piece

namespace Token

/-! ### Plain tokens -/

/-- Nothing classifies the token: its last scope is the root or that of an open construct. -/
def isPlain (t : Token) : Bool :=
  t.leaf == .source || t.leaf.isFrame

/-- Both tokens are plain, and they have the same scopes. -/
def Joins (a b : Token) : Prop :=
  a.isPlain ∧ b.isPlain ∧ a.scopes = b.scopes

instance (a b : Token) : Decidable (a.Joins b) :=
  inferInstanceAs (Decidable (_ ∧ _ ∧ _))

/-- A token's leaf is read from its scopes alone. -/
theorem leaf_congr {a b : Token} (h : a.scopes = b.scopes) : a.leaf = b.leaf := by
  rw [leaf, leaf, h]

theorem isPlain_congr {a b : Token} (h : a.scopes = b.scopes) : a.isPlain = b.isPlain := by
  rw [isPlain, isPlain, leaf_congr h]

theorem joins_congr {a b c d : Token} (h : a.scopes = c.scopes) (h' : b.scopes = d.scopes) :
    a.Joins b ↔ c.Joins d := by
  rw [Joins, Joins, isPlain_congr h, isPlain_congr h', h, h']

section Piece

variable {a b : Token} {p q : Piece}

/-- A token is as plain as the piece that it has its scopes from. -/
theorem isPlain_of_scopes (h : a.scopes = p.scopes) (hleaf : ∀ leaf ∈ p.leaf, leaf.isLeaf) :
    a.isPlain = p.isPlain := by
  rw [isPlain, leaf, h, Piece.scopes, Piece.isPlain]
  cases hp : p.leaf with
  | none =>
    cases p.frames with
    | nil => rfl
    | cons f below => simp [Frame.isFrame_scope]
  | some leaf =>
    have hleaf := hleaf leaf hp
    simp only [Scope.isLeaf, Bool.and_eq_true, bne_iff_ne, Bool.not_eq_true'] at hleaf
    simp [hleaf]

/-- **A token is plain if it has one scope more than constructs are open for its piece.** -/
theorem isPlain_iff_length (h : a.scopes = p.scopes) (hleaf : ∀ leaf ∈ p.leaf, leaf.isLeaf) :
    a.isPlain ↔ a.scopes.length = p.frames.length + 1 := by
  rw [isPlain_of_scopes h hleaf, h, Piece.scopes, List.length_append, Stack.length_scopes,
    Piece.isPlain]
  cases p.leaf <;> simp

/-- Tokens join exactly if the pieces with their scopes do. -/
theorem joins_iff_absorbs (ha : a.scopes = p.scopes) (hb : b.scopes = q.scopes)
    (hp : ∀ leaf ∈ p.leaf, leaf.isLeaf) (hq : ∀ leaf ∈ q.leaf, leaf.isLeaf) :
    a.Joins b ↔ p.Absorbs q := by
  rw [Joins, Piece.Absorbs, isPlain_of_scopes ha hp, isPlain_of_scopes hb hq, ha, hb]
  refine and_congr_right fun hplain ↦ and_congr_right fun hplain' ↦ ?_
  rw [Piece.scopes, Piece.scopes, Option.isNone_iff_eq_none.1 hplain,
    Option.isNone_iff_eq_none.1 hplain', Option.toList_none, List.append_nil, List.append_nil]

end Piece

/-- Tokens of joined pieces are joined as far as they can be. -/
theorem isChain_layout_join {pieces : List Piece}
    (hleaf : ∀ p ∈ pieces, ∀ leaf ∈ p.leaf, leaf.isLeaf) (offset : Nat) :
    (layout offset (Piece.join pieces)).IsChain fun a b ↦ ¬a.Joins b := by
  have hjoin : ∀ p ∈ Piece.join pieces, ∀ leaf ∈ p.leaf, leaf.isLeaf := by
    intro p hp
    obtain ⟨q, hq, -, hsame, -⟩ := Piece.exists_mem_of_mem_join hp
    exact hsame ▸ hleaf q hq
  have hchain := Piece.isChain_join pieces
  generalize Piece.join pieces = joined at hjoin hchain
  induction joined generalizing offset with
  | nil => exact .nil
  | cons p joined ih =>
    obtain ⟨hp, hmore⟩ := List.forall_mem_cons.1 hjoin
    cases joined with
    | nil => exact .singleton _
    | cons q joined =>
      obtain ⟨habsorbs, hchain⟩ := List.isChain_cons_cons.1 hchain
      have hnext := ih (offset + Text.byteLength p.text) hmore hchain
      rw [layout] at hnext ⊢
      refine List.isChain_cons_cons.2 ⟨?_, hnext⟩
      rwa [joins_iff_absorbs rfl rfl hp (hmore q List.mem_cons_self)]

/-! ### Adding tokens one by one -/

/-- Add a token behind others; one that the last of them joins only makes that longer. -/
def add (tokens : List Token) (t : Token) : List Token :=
  match tokens.getLast? with
  | some last =>
    if last.Joins t then tokens.dropLast ++ [{ last with stop := t.stop }] else tokens ++ [t]
  | none => [t]

/-- The offset that tokens reach. -/
def reach (tokens : List Token) : Nat :=
  (tokens.getLast?.map stop).getD 0

/-- A token is added to the last one, by joining it or behind it. -/
theorem add_concat (front : List Token) (last t : Token) :
    add (front ++ [last]) t =
      if last.Joins t then front ++ [{ last with stop := t.stop }] else front ++ [last] ++ [t] := by
  simp [add]

@[simp]
theorem reach_concat (front : List Token) (last : Token) : reach (front ++ [last]) = last.stop := by
  simp [reach]

/-- Joined or not, a token that is added is reached to its end. -/
@[simp]
theorem reach_add (tokens : List Token) (t : Token) : reach (add tokens t) = t.stop := by
  rcases tokens.eq_nil_or_concat with rfl | ⟨front, last, rfl⟩
  · rfl
  · rw [List.concat_eq_append, add_concat]
    split <;> rw [reach_concat]

/-- Two tokens that join are added as the one that they make up. -/
theorem add_add_of_joins {a b : Token} (h : a.Joins b) (tokens : List Token) :
    add (add tokens a) b = add tokens { a with stop := b.stop } := by
  obtain ⟨ha, hb, hscopes⟩ := h
  rcases tokens.eq_nil_or_concat with rfl | ⟨front, last, rfl⟩
  · exact (add_concat [] a b).trans (if_pos ⟨ha, hb, hscopes⟩)
  · have hwhole : last.Joins { a with stop := b.stop } ↔ last.Joins a := joins_congr rfl rfl
    rw [List.concat_eq_append, add_concat, add_concat, if_congr hwhole rfl rfl]
    split
    · next hlast =>
      have hnext : Joins { last with stop := a.stop } b :=
        (joins_congr rfl hscopes).1 hlast
      rw [add_concat, if_pos hnext]
    · rw [add_concat, if_pos ⟨ha, hb, hscopes⟩]

/-- Tokens of which none joins the next are added as they are. -/
theorem foldl_add_of_isChain {tokens : List Token} {last : Token}
    (h : (last :: tokens).IsChain fun a b ↦ ¬a.Joins b) (front : List Token) :
    tokens.foldl add (front ++ [last]) = front ++ last :: tokens := by
  induction tokens generalizing front last with
  | nil => rfl
  | cons t tokens ih =>
    obtain ⟨hlast, hmore⟩ := List.isChain_cons_cons.1 h
    rw [List.foldl_cons, add_concat, if_neg hlast, ih hmore, List.append_assoc,
      List.singleton_append]

/-- Tokens of which none joins the next are rebuilt as they are. -/
theorem foldl_add_nil {tokens : List Token} (h : tokens.IsChain fun a b ↦ ¬a.Joins b) :
    tokens.foldl add [] = tokens := by
  cases tokens with
  | nil => rfl
  | cons t tokens => exact foldl_add_of_isChain h []

/-- **Adding the tokens of pieces joins the pieces.** -/
theorem foldl_add_layout {pieces : List Piece} {p : Piece}
    (hp : ∀ leaf ∈ p.leaf, leaf.isLeaf) (hpieces : ∀ q ∈ pieces, ∀ leaf ∈ q.leaf, leaf.isLeaf)
    (front : List Token) (offset : Nat) :
    (layout (offset + Text.byteLength p.text) pieces).foldl add
        (front ++ [⟨offset, offset + Text.byteLength p.text, p.scopes⟩]) =
      front ++ layout offset (Piece.join (p :: pieces)) := by
  induction pieces generalizing p front offset with
  | nil => rfl
  | cons q pieces ih =>
    obtain ⟨hq, hmore⟩ := List.forall_mem_cons.1 hpieces
    rw [layout, List.foldl_cons, add_concat,
      if_congr (joins_iff_absorbs (p := p) (q := q) rfl rfl hp hq) rfl rfl]
    split
    · next habsorbs =>
      have hboth := ih (p := { p with text := p.text ++ q.text }) hp hmore front offset
      rw [Text.byteLength_append, ← Nat.add_assoc] at hboth
      rw [Piece.join_cons_cons_of_absorbs habsorbs, ← hboth]
      rfl
    · next habsorbs =>
      rw [Piece.join_cons_cons_of_not_absorbs habsorbs, layout, ih hq hmore, List.append_assoc,
        List.singleton_append]

/-! ### Emitting pieces one by one -/

/--
Add what is cut off next, which starts where the last token stops. The text of a plain piece goes to
that token if it has as many scopes as a plain one has where the piece stands, and just those of the
piece.
-/
def emit (tokens : List Token) (p : Piece) : List Token :=
  let stop := reach tokens + Text.byteLength p.text
  match tokens.getLast? with
  | some last =>
    if p.isPlain ∧ last.scopes.length = p.frames.length + 1 ∧ last.scopes = p.scopes then
      tokens.dropLast ++ [{ last with stop }]
    else
      tokens ++ [⟨reach tokens, stop, p.scopes⟩]
  | none => [⟨reach tokens, stop, p.scopes⟩]

/-- **The comparison of scopes finds just the plain tokens.** -/
theorem emit_eq {p : Piece} (hleaf : ∀ leaf ∈ p.leaf, leaf.isLeaf) (tokens : List Token) :
    emit tokens p =
      add tokens ⟨reach tokens, reach tokens + Text.byteLength p.text, p.scopes⟩ := by
  have hpiece (t : Token) (h : t.scopes = p.scopes) : t.isPlain = p.isPlain :=
    isPlain_of_scopes h hleaf
  have htest (last t : Token) (ht : t.scopes = p.scopes) :
      (p.isPlain ∧ last.scopes.length = p.frames.length + 1 ∧ last.scopes = p.scopes) ↔
        last.Joins t := by
    rw [Joins, hpiece t ht, ht]
    constructor
    · rintro ⟨hp, -, hscopes⟩
      exact ⟨(hpiece last hscopes).trans hp, hp, hscopes⟩
    · rintro ⟨hlast, hp, hscopes⟩
      exact ⟨hp, (isPlain_iff_length hscopes hleaf).1 hlast, hscopes⟩
  rw [emit, add]
  split
  · next last _ => exact if_congr (htest last _ rfl) rfl rfl
  · rfl

/-- **Emitting pieces is adding the tokens of their layout**, so that merging can be read token by
token. -/
theorem foldl_emit {pieces : List Piece} (hleaf : ∀ p ∈ pieces, ∀ leaf ∈ p.leaf, leaf.isLeaf)
    (tokens : List Token) :
    pieces.foldl emit tokens = (layout (reach tokens) pieces).foldl add tokens := by
  induction pieces generalizing tokens with
  | nil => rfl
  | cons p pieces ih =>
    obtain ⟨hp, hmore⟩ := List.forall_mem_cons.1 hleaf
    rw [List.foldl_cons, emit_eq hp, ih hmore, reach_add, layout, List.foldl_cons]

/-- **Pieces that are emitted in order become the tokens of the joined pieces.** -/
theorem foldl_emit_nil {pieces : List Piece}
    (hleaf : ∀ p ∈ pieces, ∀ leaf ∈ p.leaf, leaf.isLeaf) :
    pieces.foldl emit [] = layout 0 (Piece.join pieces) := by
  rw [foldl_emit hleaf]
  cases pieces with
  | nil => rfl
  | cons p pieces =>
    obtain ⟨hp, hmore⟩ := List.forall_mem_cons.1 hleaf
    exact foldl_add_layout hp hmore [] 0

/-! ### Taking plain tokens apart -/

/-- A token for each character of a text at an offset. -/
def characters (scopes : List Scope) (offset : Nat) (text : List Char) : List Token :=
  (Lexeme.layoutSpans offset (text.map fun c ↦ [c])).map fun span ↦ ⟨span.1, span.2, scopes⟩

/-- A plain token character by character; any other token as it is. -/
def spread (line : List Char) (t : Token) : List Token :=
  if t.isPlain then characters t.scopes t.start ((t.text? line).getD []) else [t]

theorem characters_cons (scopes : List Scope) (offset : Nat) (c : Char) (text : List Char) :
    characters scopes offset (c :: text) =
      ⟨offset, offset + c.utf8Size, scopes⟩ :: characters scopes (offset + c.utf8Size) text :=
  rfl

/-- Plain characters are added as the text that they make up. -/
theorem foldl_add_characters {scopes : List Scope} {text : List Char} (hne : text ≠ [])
    (hplain : ∀ t : Token, t.scopes = scopes → t.isPlain) (tokens : List Token) (offset : Nat) :
    (characters scopes offset text).foldl add tokens =
      add tokens ⟨offset, offset + Text.byteLength text, scopes⟩ := by
  induction text generalizing tokens offset with
  | nil => exact absurd rfl hne
  | cons c text ih =>
    rw [characters_cons, List.foldl_cons, Text.byteLength_cons, ← Nat.add_assoc]
    by_cases htext : text = []
    · rw [htext]
      rfl
    · have hjoins : Joins ⟨offset, offset + c.utf8Size, scopes⟩
          ⟨offset + c.utf8Size, offset + c.utf8Size + Text.byteLength text, scopes⟩ :=
        ⟨hplain ⟨_, _, _⟩ rfl, hplain ⟨_, _, _⟩ rfl, rfl⟩
      rw [ih htext, add_add_of_joins hjoins]

/-- **A token of a line that is taken apart is put together again.** -/
theorem foldl_add_spread {line inside : List Char} {t : Token} (h : t.text? line = some inside)
    (hne : inside ≠ []) (tokens : List Token) :
    (spread line t).foldl add tokens = add tokens t := by
  rw [spread]
  split
  · next hplain =>
    obtain ⟨before, after, -, -, hstop⟩ := Text.slice?_eq_some_iff.1 h
    rw [h, Option.getD_some, foldl_add_characters hne fun u hu ↦ (isPlain_congr hu).trans hplain,
      hstop]
  · rfl

end Token

/-! ### The tokens of a line -/

/--
At a scan position of the line the piece is cut off at the byte, by what is recognised there, if
anything is. It stands in the constructs open before the step or in those open behind it.
-/
def Piece.CutOffBy (s : Stack) (line : List Char) (start : Nat) (p : Piece)
    (x? : Option Lexeme) : Prop :=
  ∃ done u c rest inner outer,
    Scans s line done u (c :: rest) ∧ Lexeme.recognise? u.head? (c :: rest) = x? ∧
      (scanStep u c rest).pieces = inner ++ p :: outer ∧
      (p.frames = u ∨ p.frames = (scanStep u c rest).stack) ∧
      start = Text.byteLength (Piece.textOf (done ++ inner))

section Line

variable {line : List Char} {s : Stack} {start : Nat} {p : Piece} {x? : Option Lexeme}

/-- Each piece of a scan is cut off at the byte behind the pieces in front of it. -/
theorem Piece.exists_cutOffBy_of_scan_eq {front back : List Piece}
    (h : (scan s line).1 = front ++ p :: back) :
    ∃ x?, p.CutOffBy s line (Text.byteLength (textOf front)) x? := by
  obtain ⟨done, u, c, rest, inner, outer, hrun, hpieces, rfl⟩ :=
    (scans_scan s line).exists_step_of_eq h
  have hframes := ((acts_scanStep u c rest).frames_of_mem (p := p) (by simp [hpieces])).1
  exact ⟨_, done, u, c, rest, inner, outer, hrun, rfl, hpieces, hframes, rfl⟩

/-- Only what is recognised is classified. -/
theorem Piece.CutOffBy.isSome_of_classified (h : p.CutOffBy s line start x?)
    (hp : p.isPlain = false) : x?.isSome := by
  obtain ⟨done, u, c, rest, inner, outer, -, rfl, hpieces, -, -⟩ := h
  cases hx : Lexeme.recognise? u.head? (c :: rest) with
  | some x => rfl
  | none =>
    have hmem : p ∈ (scanStep u c rest).pieces := by simp [hpieces]
    rw [scanStep, hx, Step.plain, List.mem_singleton] at hmem
    simp [hmem, Piece.isPlain] at hp

/-- A classified piece that is cut off is a token of its own. -/
theorem Piece.CutOffBy.mem_tokenizeLine (h : p.CutOffBy s line start x?)
    (hp : p.isPlain = false) :
    ⟨start, start + Text.byteLength p.text, p.scopes⟩ ∈ (tokenizeLine line s).tokens := by
  obtain ⟨done, u, c, rest, inner, outer, hrun, -, hpieces, -, rfl⟩ := h
  have hnext := hrun.trans (.one u c rest)
  rw [hpieces, ← List.append_assoc] at hnext
  exact mem_tokenizeLine_of_scans hnext hp

/-- A classified piece takes up no other. -/
theorem Piece.merge_eq_of_classified {others : List Piece} (hp : p.isPlain = false)
    (h : ∀ q ∈ others, p.Absorbs q) : merge (p, others) = p := by
  have hothers : others = [] := by
    refine List.eq_nil_iff_forall_not_mem.2 fun q hq ↦ ?_
    have hplain := (h q hq).1
    simp [hp] at hplain
  rw [hothers, merge, textOf_nil, List.append_nil]

/--
**What a token is made of**: a piece that is cut off where the token starts, and, only if that is
plain, more of the same.
-/
theorem exists_cutOffBy_of_mem_tokenizeLine {t : Token} (ht : t ∈ (tokenizeLine line s).tokens) :
    ∃ (p : Piece) (x? : Option Lexeme), p.CutOffBy s line t.start x? ∧ t.scopes = p.scopes ∧
      t.isPlain = p.isPlain ∧
      (t.isPlain ↔ t.scopes.length = p.frames.length + 1) ∧
      (t.isPlain = false → t.stop = t.start + Text.byteLength p.text) := by
  obtain ⟨before, q, after, hjoin, hstart, hstop, hscopes⟩ := Token.exists_of_mem_layout ht
  obtain ⟨front, p, others, back, hpieces, hfront, rfl, habsorbs⟩ :=
    Piece.exists_block_of_join_eq hjoin
  obtain ⟨x?, hcut⟩ := Piece.exists_cutOffBy_of_scan_eq hpieces
  have hmem : p ∈ (scan s line).1 := by simp [hpieces]
  have hleaf : ∀ leaf ∈ p.leaf, leaf.isLeaf := isLeaf_of_mem_scan hmem
  have hplain : t.isPlain = p.isPlain := Token.isPlain_of_scopes hscopes hleaf
  rw [Nat.zero_add, ← hfront] at hstart
  refine ⟨p, x?, hstart ▸ hcut, hscopes, hplain, Token.isPlain_iff_length hscopes hleaf, ?_⟩
  intro hclassified
  rw [hstop, Piece.merge_eq_of_classified (hplain ▸ hclassified) habsorbs]

/-- **Emitting the pieces of a scan one by one makes the tokens of the line.** -/
theorem foldl_emit_scan (line : List Char) (s : Stack) :
    (scan s line).1.foldl Token.emit [] = (tokenizeLine line s).tokens :=
  Token.foldl_emit_nil fun _ hp ↦ isLeaf_of_mem_scan hp

/-- **The tokens of a line leave nothing to be merged.** -/
theorem isChain_tokenizeLine (line : List Char) (s : Stack) :
    (tokenizeLine line s).tokens.IsChain fun a b ↦ ¬a.Joins b :=
  Token.isChain_layout_join (fun _ hp ↦ isLeaf_of_mem_scan hp) 0

/-- **Taking the plain tokens of a line apart and merging again changes nothing.** -/
theorem foldl_add_flatMap_spread (line : List Char) (s : Stack) :
    ((tokenizeLine line s).tokens.flatMap (Token.spread line)).foldl Token.add [] =
      (tokenizeLine line s).tokens := by
  have hspread (tokens : List Token) (t : Token) (ht : t ∈ (tokenizeLine line s).tokens) :
      (Token.spread line t).foldl Token.add tokens = Token.add tokens t := by
    obtain ⟨inside, htext, hne⟩ := (covers_tokenizeLine line s).exists_text? ht
    exact Token.foldl_add_spread htext hne tokens
  rw [List.foldl_flatMap, List.foldl_ext _ _ _ hspread]
  exact Token.foldl_add_nil (isChain_tokenizeLine line s)

end Line

/--
**Plain text is merged as far as it can be, and nothing else is.** On every line and from every
stack, the tokens are what emitting piece after piece makes of the scan. No two neighbours among
them are plain with the same scopes. Each is as plain as the piece that is cut off where it starts,
and it is so just if it has one scope more than constructs are open for that piece. A classified
token is one such piece and no more, and each classified piece is such a token. So the plain tokens
can be taken apart into characters, and merging gives the same tokens again.
-/
theorem tokenizeLine_merges_plain (line : List Char) (s : Stack) :
    (scan s line).1.foldl Token.emit [] = (tokenizeLine line s).tokens ∧
    ((tokenizeLine line s).tokens.IsChain fun a b ↦ ¬a.Joins b) ∧
    (∀ t ∈ (tokenizeLine line s).tokens, ∃ (p : Piece) (x? : Option Lexeme),
      p.CutOffBy s line t.start x? ∧ t.scopes = p.scopes ∧ t.isPlain = p.isPlain ∧
      (t.isPlain ↔ t.scopes.length = p.frames.length + 1) ∧
      (t.isPlain = false → x?.isSome ∧ t.stop = t.start + Text.byteLength p.text)) ∧
    (∀ (start : Nat) (p : Piece) (x? : Option Lexeme), p.CutOffBy s line start x? →
      p.isPlain = false →
        ⟨start, start + Text.byteLength p.text, p.scopes⟩ ∈ (tokenizeLine line s).tokens) ∧
    ((tokenizeLine line s).tokens.flatMap (Token.spread line)).foldl Token.add [] =
      (tokenizeLine line s).tokens := by
  refine ⟨foldl_emit_scan line s, isChain_tokenizeLine line s, fun t ht ↦ ?_,
    fun _ _ _ hcut hp ↦ hcut.mem_tokenizeLine hp, foldl_add_flatMap_spread line s⟩
  obtain ⟨p, x?, hcut, hscopes, hplain, hlength, hstop⟩ := exists_cutOffBy_of_mem_tokenizeLine ht
  exact ⟨p, x?, hcut, hscopes, hplain, hlength,
    fun h ↦ ⟨hcut.isSome_of_classified (hplain ▸ h), hstop h⟩⟩

/--
In front of the quote in `? "` are two characters that nothing is recognised at, one token. The
quote is a token of its own.
-/
theorem tokenizeLine_merges_plain_quote :
    Piece.CutOffBy [] ['?', ' ', '"'] 2 ⟨['"'], [.quoted false], some .stringMark⟩
      (some (.quoteOpen false)) ∧
    ⟨2, 3, [.source, .quoted, .stringMark]⟩ ∈ (tokenizeLine ['?', ' ', '"'] []).tokens ∧
    [⟨0, 1, [.source]⟩, ⟨1, 2, [.source]⟩, ⟨2, 3, [.source, .quoted, .stringMark]⟩].foldl
      Token.add [] = (tokenizeLine ['?', ' ', '"'] []).tokens := by
  obtain ⟨-, -, -, hclassified, hagain⟩ := tokenizeLine_merges_plain ['?', ' ', '"'] []
  have hfirst : Scans [] ['?', ' ', '"'] [⟨['?'], [], none⟩] [] [' ', '"'] :=
    scans_of_scanStep rfl rfl
  have hsecond : Scans [] [' ', '"'] [⟨[' '], [], none⟩] [] ['"'] := scans_of_scanStep rfl rfl
  have hcut : Piece.CutOffBy [] ['?', ' ', '"'] 2 ⟨['"'], [.quoted false], some .stringMark⟩
      (some (.quoteOpen false)) :=
    ⟨_, [], '"', [], [], [], hfirst.trans hsecond, rfl, rfl, .inr rfl, rfl⟩
  have hspread : (tokenizeLine ['?', ' ', '"'] []).tokens.flatMap (Token.spread ['?', ' ', '"']) =
      [⟨0, 1, [.source]⟩, ⟨1, 2, [.source]⟩, ⟨2, 3, [.source, .quoted, .stringMark]⟩] := by
    decide +kernel
  rw [hspread] at hagain
  exact ⟨hcut, hclassified 2 _ _ hcut rfl, hagain⟩

end RonWorkbench
