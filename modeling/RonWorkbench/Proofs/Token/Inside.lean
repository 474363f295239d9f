import RonWorkbench.Proofs.Token.Cover

/-!
# The tokens inside a construct

Where a scan enters a construct, the tokens of the line fall into three parts: those of the text in
front, those inside the construct, and those of what is left of the line, which are the tokens that
it has as a line of its own, moved behind the others (`LineTokens.behind`).

What a construct holds is read in *atoms*: characters of text, and marks, which are tokens of their
own. How the scan cuts the text between two marks does not matter, because plain pieces are joined:
atoms alone determine the pieces (`Atom.pieces`), in which each longest stretch of characters is one
plain piece. So all that is to be shown of a construct is which atoms the scan reads in it
(`ScansInside`), step by step; `ScansInside.tokenizeLine_eq` turns that into tokens. A run inside a
construct starts behind a classified piece or with the line, and it ends with a classified piece or
with the line, so that no plain token reaches over an end of it.
-/

namespace RonWorkbench

/-- What is read at one place: a character of text, or a mark, which is a token of its own. -/
inductive Atom
  | char (c : Char)
  | mark (text : List Char) (leaf : Scope)
  deriving Repr, DecidableEq

namespace Atom

/-- Put plain text in front of pieces; with a plain piece there it becomes one. -/
def prependPlain (u : Stack) (text : List Char) : List Piece → List Piece
  | [] => [⟨text, u, none⟩]
  | p :: more =>
    if p.isPlain then ⟨text ++ p.text, u, none⟩ :: more else ⟨text, u, none⟩ :: p :: more

/-- The pieces that atoms make: one for each mark and one for each longest run of characters. -/
def pieces (u : Stack) : List Atom → List Piece
  | [] => []
  | char c :: more => prependPlain u [c] (pieces u more)
  | mark text leaf :: more => ⟨text, u, some leaf⟩ :: pieces u more

end Atom

namespace Piece

/-- A piece in atoms: its characters if it is plain, and otherwise a mark. -/
def atoms (p : Piece) : List Atom :=
  match p.leaf with
  | none => p.text.map .char
  | some leaf => [.mark p.text leaf]

/-- The last piece, if there is one, is classified: what follows is not joined to it. -/
def EndsClassified (pieces : List Piece) : Prop :=
  ∀ p ∈ pieces.getLast?, p.isPlain = false

/-- Text as one plain piece, or no piece if there is no text. -/
def plain (u : Stack) (text : List Char) : List Piece :=
  if text.isEmpty then [] else [⟨text, u, none⟩]

/-- What tokens are made from: the frames count by their scopes only. -/
def shown (p : Piece) : List Char × List Scope × Option Scope :=
  (p.text, p.frames.scopes, p.leaf)

end Piece

/-- The token of a line that has so many more bytes in front. -/
def Token.shift (bytes : Nat) (t : Token) : Token :=
  { t with start := t.start + bytes, stop := t.stop + bytes }

/-- The tokens of pieces and then those of a line, moved behind the pieces. -/
def LineTokens.behind (after : LineTokens) (front : List Piece) : LineTokens :=
  ⟨Token.layout 0 front ++ after.tokens.map (Token.shift (Text.byteLength (Piece.textOf front))),
    after.stack⟩

/-! ### Laying out -/

namespace Token

/-- Pieces are laid out one list behind the other, the second where the first ends. -/
theorem layout_append (offset : Nat) (a b : List Piece) :
    layout offset (a ++ b) =
      layout offset a ++ layout (offset + Text.byteLength (Piece.textOf a)) b := by
  induction a generalizing offset with
  | nil => rfl
  | cons p a ih =>
    rw [List.cons_append, layout, ih, Piece.textOf_cons, Text.byteLength_append, Nat.add_assoc,
      layout, List.cons_append]

/-- A layout that starts later is the same one, shifted. -/
theorem layout_add (offset bytes : Nat) (pieces : List Piece) :
    layout (offset + bytes) pieces = (layout offset pieces).map (shift bytes) := by
  induction pieces generalizing offset with
  | nil => rfl
  | cons p pieces ih =>
    have hnext : offset + bytes + Text.byteLength p.text =
        offset + Text.byteLength p.text + bytes := by omega
    rw [layout, hnext, ih, layout, List.map_cons]
    rfl

/-- Each piece gives the token at the offset of the text in front of it. -/
theorem mem_layout (offset : Nat) (before : List Piece) (p : Piece) (after : List Piece) :
    ⟨offset + Text.byteLength (Piece.textOf before),
        offset + Text.byteLength (Piece.textOf before) + Text.byteLength p.text, p.scopes⟩ ∈
      layout offset (before ++ p :: after) := by
  rw [layout_append, layout]
  exact List.mem_append_right _ List.mem_cons_self

/-- Tokens are made from what the pieces show. -/
theorem layout_eq_of_map_shown {a b : List Piece} (h : a.map Piece.shown = b.map Piece.shown)
    (offset : Nat) : layout offset a = layout offset b := by
  induction a generalizing b offset with
  | nil =>
    obtain rfl : b = [] := by simpa using h.symm
    rfl
  | cons p a ih =>
    obtain ⟨q, b, rfl, hq, hb⟩ := List.map_eq_cons_iff.1 h.symm
    obtain ⟨htext, hrest⟩ := Prod.mk.inj hq
    obtain ⟨hframes, hleaf⟩ := Prod.mk.inj hrest
    rw [layout, layout, Piece.scopes, Piece.scopes, htext, hframes, hleaf, ih hb.symm]

end Token

/-- In front of other tokens pieces count for what they show. -/
theorem LineTokens.behind_eq_of_map_shown (after : LineTokens) {a b : List Piece}
    (h : a.map Piece.shown = b.map Piece.shown) : after.behind a = after.behind b := by
  have htext : Piece.textOf a = Piece.textOf b := by
    have h := congrArg (fun shown ↦ (shown.map Prod.fst).flatten) h
    simpa [Piece.textOf, Function.comp_def, Piece.shown] using h
  rw [behind, behind, Token.layout_eq_of_map_shown h, htext]

/-! ### Joining -/

namespace Piece

theorem endsClassified_nil : EndsClassified [] := by
  simp [EndsClassified]

/-- A list that ends with a classified piece keeps that end behind any other. -/
theorem EndsClassified.append {a b : List Piece} (ha : EndsClassified a) (hb : EndsClassified b) :
    EndsClassified (a ++ b) := by
  intro p hp
  rw [List.getLast?_append] at hp
  cases hlast : b.getLast? with
  | none => exact ha p (by simpa [hlast] using hp)
  | some q => exact hb p (by simpa [hlast] using hp)

theorem join_cons_of_classified {p : Piece} (hp : p.isPlain = false) (more : List Piece) :
    join (p :: more) = p :: join more := by
  cases h : join more with
  | nil => rw [join, h]
  | cons q rest => rw [join_cons_eq h, if_neg (by simp [hp])]

/-- Joining may lengthen the first piece, and otherwise leaves it. -/
theorem exists_join_cons (p : Piece) (more : List Piece) :
    ∃ outer rest, join (p :: more) = { p with text := p.text ++ outer } :: rest := by
  cases h : join more with
  | nil => exact ⟨[], [], by rw [join, h, List.append_nil]⟩
  | cons q rest =>
    rw [join_cons_eq h]
    split
    · exact ⟨q.text, rest, rfl⟩
    · exact ⟨[], q :: rest, by rw [List.append_nil]⟩

/-- **Each piece is part of a joined one, which has its scopes.** -/
theorem exists_join_eq_append (done : List Piece) (p : Piece) (after : List Piece) :
    ∃ before q rest inner outer, join (done ++ p :: after) = before ++ q :: rest ∧
      textOf done = textOf before ++ inner ∧ q.text = inner ++ (p.text ++ outer) ∧
        q.scopes = p.scopes := by
  induction done with
  | nil =>
    obtain ⟨outer, rest, hjoin⟩ := exists_join_cons p after
    exact ⟨[], _, rest, [], outer, hjoin, rfl, rfl, rfl⟩
  | cons d done ih =>
    obtain ⟨before, q, rest, inner, outer, hjoin, hdone, htext, hscopes⟩ := ih
    rw [List.cons_append, textOf_cons, hdone]
    cases before with
    | nil =>
      -- the new piece may be joined to the one in question itself
      rw [join_cons_eq hjoin]
      split
      · next hmerge =>
        simp only [isPlain, Bool.and_eq_true, Option.isNone_iff_eq_none, beq_iff_eq] at hmerge
        obtain ⟨⟨hd, hq⟩, hframes⟩ := hmerge
        refine ⟨[], _, rest, d.text ++ inner, outer, rfl, by simp, by simp [htext], ?_⟩
        rw [← hscopes, scopes, scopes, hd, hq, ← hframes]
      · exact ⟨[d], q, rest, inner, outer, rfl, by simp, htext, hscopes⟩
    | cons b before =>
      rw [join_cons_eq hjoin]
      split
      · exact ⟨_ :: before, q, rest, inner, outer, rfl, by simp, htext, hscopes⟩
      · exact ⟨d :: b :: before, q, rest, inner, outer, rfl, by simp, htext, hscopes⟩

/-- **Nothing is joined over a classified piece.** -/
theorem join_append {a : List Piece} (ha : EndsClassified a) (b : List Piece) :
    join (a ++ b) = join a ++ join b := by
  induction a with
  | nil => rfl
  | cons p a ih =>
    cases a with
    | nil =>
      have hp : p.isPlain = false := ha p rfl
      rw [List.singleton_append, join_cons_of_classified hp, join_cons_of_classified hp]
      rfl
    | cons q a =>
      have hboth := ih fun r hr ↦ ha r (by rwa [List.getLast?_cons_cons])
      -- the first piece is joined to what the others begin with, whatever follows them
      obtain ⟨outer, rest, hjoin⟩ := exists_join_cons q a
      rw [hjoin, List.cons_append, List.cons_append] at hboth
      rw [List.cons_append, List.cons_append, join_cons_eq hboth, join_cons_eq hjoin]
      split <;> rfl

/-- A classified piece stays as it is, whatever stands around it. -/
theorem join_append_of_classified (done : List Piece) {p : Piece} (hp : p.isPlain = false)
    (after : List Piece) : join (done ++ p :: after) = join done ++ p :: join after := by
  induction done with
  | nil => exact join_cons_of_classified hp after
  | cons d done ih =>
    cases hjoin : join done with
    | nil =>
      rw [hjoin] at ih
      rw [List.cons_append, join_cons_eq ih, if_neg (by simp [hp]), join, hjoin]
      rfl
    | cons q rest =>
      rw [hjoin] at ih
      rw [List.cons_append, join_cons_eq ih, join_cons_eq hjoin]
      split <;> rfl

end Piece

/-- **A classified piece is a token**, at the place where it was cut off. -/
theorem mem_tokenizeLine_of_scans {s u : Stack} {line rest : List Char} {done more : List Piece}
    {p : Piece} (h : Scans s line (done ++ p :: more) u rest) (hp : p.isPlain = false) :
    ⟨Text.byteLength (Piece.textOf done),
        Text.byteLength (Piece.textOf done) + Text.byteLength p.text, p.scopes⟩ ∈
      (tokenizeLine line s).tokens := by
  have hscan : (scan s line).1 = done ++ p :: (more ++ (scan u rest).1) := by
    rw [h.scan_eq, List.append_assoc, List.cons_append]
  have htoken := Token.mem_layout 0 (Piece.join done) p (Piece.join (more ++ (scan u rest).1))
  rwa [← Piece.join_append_of_classified done hp, ← hscan, Piece.textOf_join, Nat.zero_add]
    at htoken

/-! ### Pieces and their atoms -/

namespace Atom

/-- Plain text in front of plain text is one text. -/
theorem prependPlain_prependPlain (u : Stack) (a b : List Char) (pieces : List Piece) :
    prependPlain u a (prependPlain u b pieces) = prependPlain u (a ++ b) pieces := by
  cases pieces with
  | nil => simp [prependPlain, Piece.isPlain]
  | cons p more =>
    rw [prependPlain.eq_def u b, prependPlain.eq_def u (a ++ b)]
    dsimp only
    split <;> simp [prependPlain, Piece.isPlain]

/-- A run of characters is plain text in front of what follows. -/
theorem pieces_map_char_append (u : Stack) {text : List Char} (h : text ≠ []) (more : List Atom) :
    pieces u (text.map char ++ more) = prependPlain u text (pieces u more) := by
  induction text with
  | nil => exact absurd rfl h
  | cons c text ih =>
    rw [List.map_cons, List.cons_append, pieces]
    by_cases htext : text = []
    · rw [htext]
      rfl
    · rw [ih htext, prependPlain_prependPlain]
      rfl

/-- Characters only are one plain piece. -/
theorem pieces_map_char (u : Stack) (text : List Char) :
    pieces u (text.map char) = Piece.plain u text := by
  by_cases htext : text = []
  · simp [htext, pieces, Piece.plain]
  · have h := pieces_map_char_append u htext []
    rw [List.append_nil] at h
    rw [h]
    simp [pieces, prependPlain, Piece.plain, htext]

/-- Plain text in front does not get past a piece with a leaf. -/
theorem prependPlain_append_of_classified (u : Stack) (text : List Char) {p : Piece}
    (hp : p.isPlain = false) (front : List Piece) :
    prependPlain u text (front ++ [p]) = prependPlain u text front ++ [p] := by
  cases front with
  | nil => simp [prependPlain, hp]
  | cons q front =>
    rw [List.cons_append, prependPlain, prependPlain]
    split <;> rfl

/-- A mark is a piece of its own, whatever stands in front of it. -/
theorem pieces_append_mark (u : Stack) (atoms : List Atom) (text : List Char) (leaf : Scope) :
    pieces u (atoms ++ [.mark text leaf]) = pieces u atoms ++ [⟨text, u, some leaf⟩] := by
  induction atoms with
  | nil => rfl
  | cons x atoms ih =>
    cases x with
    | char c => rw [List.cons_append, pieces, ih, prependPlain_append_of_classified u _ rfl, pieces]
    | mark text leaf => rw [List.cons_append, pieces, ih, pieces, List.cons_append]

end Atom

namespace Piece

/-- Putting plain text in front of pieces is joining it to them, as far as it is shown. -/
theorem map_shown_join_cons_of_plain {u : Stack} {p : Piece} (hplain : p.leaf = none)
    (hframes : p.frames.scopes = u.scopes) {more others : List Piece}
    (hmore : (join more).map shown = others.map shown)
    (hothers : ∀ q ∈ others, q.frames = u) :
    (join (p :: more)).map shown = (Atom.prependPlain u p.text others).map shown := by
  cases hjoin : join more with
  | nil =>
    obtain rfl : others = [] := by simpa [hjoin] using hmore.symm
    rw [join, hjoin]
    simp [Atom.prependPlain, shown, hplain, hframes]
  | cons q rest =>
    rw [hjoin] at hmore
    obtain ⟨r, others, rfl, hqr, hrest⟩ := List.map_eq_cons_iff.1 hmore.symm
    obtain ⟨htext, hqr⟩ := Prod.mk.inj hqr
    obtain ⟨hscopes, hleaf⟩ := Prod.mk.inj hqr
    have hr : r.frames = u := hothers r List.mem_cons_self
    have hsame : p.frames.scopes = q.frames.scopes := by rw [hframes, ← hscopes, hr]
    rw [join_cons_eq hjoin, Atom.prependPlain]
    -- Plain text goes on in the first of the others only if that is plain itself.
    cases hrleaf : r.leaf with
    | none =>
      rw [if_pos (by simp [isPlain, hplain, ← hleaf, hrleaf, hsame]),
        if_pos (by simp [isPlain, hrleaf])]
      simp [shown, hplain, hframes, htext, hrest]
    | some leaf =>
      rw [if_neg (by simp [isPlain, ← hleaf, hrleaf]), if_neg (by simp [isPlain, hrleaf])]
      simp [shown, hplain, hframes, htext, hrest, hscopes, hleaf]

/-- The pieces of a literal's atoms stand in the literal. -/
theorem frames_of_mem_pieces {u : Stack} {atoms : List Atom} {p : Piece}
    (hp : p ∈ Atom.pieces u atoms) : p.frames = u := by
  induction atoms generalizing p with
  | nil => simp [Atom.pieces] at hp
  | cons x atoms ih =>
    cases x with
    | mark text leaf =>
      rcases List.mem_cons.1 hp with rfl | hp
      · rfl
      · exact ih hp
    | char c =>
      rw [Atom.pieces, Atom.prependPlain.eq_def] at hp
      split at hp
      · rw [List.mem_singleton.1 hp]
      · next q more hq =>
        have hmore : ∀ r ∈ more, r.frames = u := fun r hr ↦ ih (by simp [hq, hr])
        split at hp
        · rcases List.mem_cons.1 hp with rfl | hp
          · rfl
          · exact hmore p hp
        · rcases List.mem_cons.1 hp with rfl | hp
          · rfl
          · exact ih (by rwa [hq])

/-- **Atoms determine joined pieces**, as far as these are shown, whatever the text was cut into. -/
theorem map_shown_join {u : Stack} {pieces : List Piece} (hne : ∀ p ∈ pieces, p.text ≠ [])
    (hframes : ∀ p ∈ pieces, p.frames.scopes = u.scopes) :
    (join pieces).map shown = (Atom.pieces u (pieces.flatMap atoms)).map shown := by
  induction pieces with
  | nil => rfl
  | cons p more ih =>
    obtain ⟨hp, hmore⟩ := List.forall_mem_cons.1 hne
    obtain ⟨hpframes, hmoreframes⟩ := List.forall_mem_cons.1 hframes
    have hrest := ih hmore hmoreframes
    rw [List.flatMap_cons]
    cases hleaf : p.leaf with
    | none =>
      rw [atoms, hleaf]
      dsimp only
      rw [Atom.pieces_map_char_append u hp]
      exact map_shown_join_cons_of_plain hleaf hpframes hrest fun q hq ↦ frames_of_mem_pieces hq
    | some leaf =>
      rw [join_cons_of_classified (by simp [isPlain, hleaf]), atoms, hleaf]
      simp [Atom.pieces, shown, hleaf, hpframes, hrest]

end Piece

/-! ### From a scan position on -/

theorem tokenizeLine_nil (s : Stack) : tokenizeLine [] s = ⟨[], s.endLine⟩ := by
  rw [tokenizeLine, scan_nil]
  rfl

/-- Every piece of a run has at least one character. -/
theorem Scans.text_ne_nil {s u : Stack} {line rest : List Char} {pieces : List Piece}
    (h : Scans s line pieces u rest) {p : Piece} (hp : p ∈ pieces) : p.text ≠ [] := by
  have hmem : p ∈ (scan s line).1 := by
    rw [h.scan_eq]
    exact List.mem_append_left _ hp
  exact text_ne_nil_of_mem_scan hmem

/-- The tokens of pieces in front of a scan that goes on behind them. -/
theorem tokenizeLine_eq_behind_join {s v : Stack} {line more : List Char} {pieces : List Piece}
    (hrun : Scans s line pieces v more) (hend : Piece.EndsClassified pieces ∨ more = []) :
    tokenizeLine line s = (tokenizeLine more v).behind (Piece.join pieces) := by
  have hjoin : Piece.join (pieces ++ (scan v more).1) =
      Piece.join pieces ++ Piece.join (scan v more).1 := by
    rcases hend with hend | rfl
    · exact Piece.join_append hend _
    · rw [scan_nil, List.append_nil, Piece.join, List.append_nil]
  rw [tokenizeLine, hrun.scan_eq, hjoin, LineTokens.behind, tokenizeLine]
  dsimp only
  rw [Token.layout_append, Nat.zero_add, ← Token.layout_add, Nat.zero_add, Piece.textOf_join]

/--
Inside the given constructs the scan of a text reads atoms and comes to a stack and a rest, behind a
classified piece or at the end of the text.
-/
def ScansInside (u : Stack) (text : List Char) (atoms : List Atom) (v : Stack)
    (rest : List Char) : Prop :=
  ∃ pieces, Scans u text pieces v rest ∧ pieces.flatMap Piece.atoms = atoms ∧
    (∀ p ∈ pieces, p.frames.scopes = u.scopes) ∧
      ((∃ p ∈ pieces.getLast?, p.isPlain = false) ∨ rest = [])

namespace ScansInside

theorem nil (u : Stack) : ScansInside u [] [] u [] :=
  ⟨[], .refl u [], rfl, by simp, .inr rfl⟩

section Step

variable {u next v : Stack} {c : Char} {text more rest : List Char} {p : Piece}
  (hstep : scanStep u c text = ⟨[p], next⟩) (htext : c :: text = p.text ++ more)
  (hframes : p.frames.scopes = u.scopes)
include hstep htext hframes

/-- A step that cuts off a classified piece may be the last one inside a construct. -/
theorem last (hp : p.isPlain = false) : ScansInside u (c :: text) p.atoms next more := by
  have hrun := scans_of_scanStep hstep htext
  exact ⟨[p], hrun, by simp, by simpa using hframes, .inl ⟨p, rfl, hp⟩⟩

/-- A step in front of others leaves the scopes as they are. -/
theorem cons (hnext : next.scopes = u.scopes) {atoms : List Atom}
    (h : ScansInside next more atoms v rest) :
    ScansInside u (c :: text) (p.atoms ++ atoms) v rest := by
  obtain ⟨pieces, hrun, hatoms, hscopes, hend⟩ := h
  have hfirst := scans_of_scanStep hstep htext
  refine ⟨p :: pieces, hfirst.trans hrun, by simp [hatoms], ?_, ?_⟩
  · exact List.forall_mem_cons.2 ⟨hframes, fun q hq ↦ (hscopes q hq).trans hnext⟩
  · rcases hend with ⟨q, hq, hplain⟩ | hrest
    · refine .inl ⟨q, ?_, hplain⟩
      rw [Option.mem_def] at hq ⊢
      rw [List.getLast?_cons, hq]
      rfl
    · exact .inr hrest

end Step

/--
**The tokens of a line whose scan runs through a construct.** The pieces in front of it are joined
among themselves, those inside it are determined by their atoms, and what is left is a line of its
own.
-/
theorem tokenizeLine_eq {s u v : Stack} {line text rest : List Char} {front : List Piece}
    {atoms : List Atom} (h : ScansInside u text atoms v rest) (hfront : Scans s line front u text)
    (hclassified : Piece.EndsClassified front) :
    tokenizeLine line s =
      (tokenizeLine rest v).behind (Piece.join front ++ Atom.pieces u atoms) := by
  obtain ⟨inside, hrun, hatoms, hframes, hend⟩ := h
  have hwhole : Piece.EndsClassified (front ++ inside) ∨ rest = [] := by
    rcases hend with ⟨p, hp, hplain⟩ | hrest
    · refine .inl (hclassified.append fun q hq ↦ ?_)
      rwa [← Option.mem_unique hp hq]
    · exact .inr hrest
  have hshown := Piece.map_shown_join (fun p hp ↦ hrun.text_ne_nil hp) hframes
  rw [tokenizeLine_eq_behind_join (hfront.trans hrun) hwhole, Piece.join_append hclassified]
  refine LineTokens.behind_eq_of_map_shown _ ?_
  rw [List.map_append, List.map_append, hshown, hatoms]

end ScansInside

end RonWorkbench
