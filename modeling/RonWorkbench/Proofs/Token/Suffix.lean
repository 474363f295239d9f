import RonWorkbench.Proofs.Token.Merge

/-!
# Scanning is local to what is left

From a scan position on, the tokens of a line are those that the rest has as a line of its own, with
the stack of the position to start from. What stands in front of the position moves them by its
length (`Token.shift`), and there is one thing more that it can do: its last token takes up the
first of them where both are plain and have the same scopes. So a text in front may be replaced by
any other that leads to the same stack; behind it nothing changes but the offsets
(`tokenizeLine_suffix_local`).

The tokens come to be one after another (`Token.emit`), and those in front of the position are there
when the scan comes to it. Adding tokens looks at the last one only, so what is added behind others
is put together among itself first, and joined to them afterwards (`Token.foldl_add_attach`); and it
does not look at offsets (`Token.foldl_add_map_shift`). The scan itself reads nothing but what is
left of the line (`Scans.scan_eq`), so these two are all that is needed.

To compare lines with different texts in front, the tokens are cut at the position
(`Token.cutFrom?`): a token that reaches over it counts with its part behind it.
-/

namespace RonWorkbench

namespace Token

/-- Tokens behind others: the first is added to those, and the rest follows as it is. -/
def attach (tokens : List Token) : List Token → List Token
  | [] => tokens
  | first :: later => add tokens first ++ later

/-- What of the token stands behind the byte, if anything does. -/
def cutFrom? (byte : Nat) (t : Token) : Option Token :=
  if t.stop ≤ byte then none else some { t with start := max t.start byte }

/-! ### Tokens added behind others -/

/-- Tokens that do not join stay as they are when they are attached. -/
theorem attach_of_not_joins {tokens own : List Token}
    (h : ∀ last ∈ tokens.getLast?, ∀ first ∈ own.head?, ¬last.Joins first) :
    attach tokens own = tokens ++ own := by
  cases own with
  | nil => exact (List.append_nil tokens).symm
  | cons first later =>
    rcases tokens.eq_nil_or_concat with rfl | ⟨front, last, rfl⟩
    · rfl
    · have hlast : ¬last.Joins first := h last (by simp) first rfl
      rw [List.concat_eq_append, attach, add_concat, if_neg hlast, List.append_assoc,
        List.singleton_append]

/-- Where the last token joins the first of the others, the two become one. -/
theorem attach_of_joins {front later : List Token} {last first : Token} (h : last.Joins first) :
    attach (front ++ [last]) (first :: later) =
      front ++ { last with stop := first.stop } :: later := by
  rw [attach, add_concat, if_pos h, List.append_assoc, List.singleton_append]

/-- The last token shows the scopes of the one that was added, joined or not. -/
theorem exists_add_eq_concat (tokens : List Token) (t : Token) :
    ∃ front last, add tokens t = front ++ [last] ∧ last.scopes = t.scopes := by
  rcases tokens.eq_nil_or_concat with rfl | ⟨front, last, rfl⟩
  · exact ⟨[], t, rfl, rfl⟩
  · rw [List.concat_eq_append, add_concat]
    split
    · next hjoins => exact ⟨front, _, rfl, hjoins.2.2⟩
    · exact ⟨_, t, rfl, rfl⟩

/-- Only the last token matters for the one that is added. -/
theorem add_append_of_ne_nil (tokens : List Token) {more : List Token} (hmore : more ≠ [])
    (t : Token) : add (tokens ++ more) t = tokens ++ add more t := by
  obtain ⟨front, last, rfl⟩ := more.eq_nil_or_concat.resolve_left hmore
  rw [List.concat_eq_append, ← List.append_assoc, add_concat, add_concat]
  split <;> simp

/-- Adding two tokens is attaching what the second makes of the first. -/
theorem add_add (tokens : List Token) (first t : Token) :
    add (add tokens first) t = attach tokens (add [first] t) := by
  have hpair : add [first] t =
      if first.Joins t then [{ first with stop := t.stop }] else [first, t] := add_concat [] first t
  rw [hpair]
  split
  · next hjoins => rw [add_add_of_joins hjoins, attach, List.append_nil]
  · next hjoins =>
    obtain ⟨front, last, hadd, hscopes⟩ := exists_add_eq_concat tokens first
    have hlast : ¬last.Joins t := (joins_congr hscopes rfl).not.2 hjoins
    rw [attach, hadd, add_concat, if_neg hlast]

/-- A token added behind attached tokens only meets the attached ones. -/
theorem add_attach (tokens own : List Token) (t : Token) :
    add (attach tokens own) t = attach tokens (add own t) := by
  cases own with
  | nil => simp [attach, add]
  | cons first later =>
    by_cases hlater : later = []
    · rw [hlater, attach, List.append_nil, add_add]
    · have hown : add (first :: later) t = first :: add later t :=
        add_append_of_ne_nil [first] hlater t
      rw [hown, attach, attach, add_append_of_ne_nil _ hlater]

/-- **What is added behind others may be put together first.** -/
theorem foldl_add_attach (tokens own more : List Token) :
    more.foldl add (attach tokens own) = attach tokens (more.foldl add own) := by
  induction more generalizing own with
  | nil => rfl
  | cons t more ih => rw [List.foldl_cons, add_attach, ih, List.foldl_cons]

/-- Adding a token and shifting by bytes can be done in either order. -/
theorem add_map_shift (bytes : Nat) (tokens : List Token) (t : Token) :
    add (tokens.map (shift bytes)) (t.shift bytes) = (add tokens t).map (shift bytes) := by
  rcases tokens.eq_nil_or_concat with rfl | ⟨front, last, rfl⟩
  · rfl
  · have hjoins : (last.shift bytes).Joins (t.shift bytes) ↔ last.Joins t := joins_congr rfl rfl
    rw [List.concat_eq_append, List.map_append, List.map_singleton, add_concat, add_concat,
      if_congr hjoins rfl rfl]
    split <;> simp [shift]

/-- **Where tokens stand does not matter for how they are added.** -/
theorem foldl_add_map_shift (bytes : Nat) (tokens more : List Token) :
    (more.map (shift bytes)).foldl add (tokens.map (shift bytes)) =
      (more.foldl add tokens).map (shift bytes) := by
  induction more generalizing tokens with
  | nil => rfl
  | cons t more ih => rw [List.map_cons, List.foldl_cons, add_map_shift, ih, List.foldl_cons]

/-- Emitting a piece goes on by the piece's text. -/
theorem reach_emit (tokens : List Token) (p : Piece) :
    reach (emit tokens p) = reach tokens + Text.byteLength p.text := by
  rcases tokens.eq_nil_or_concat with rfl | ⟨front, last, rfl⟩
  · rfl
  · rw [List.concat_eq_append, emit, List.getLast?_concat]
    dsimp only
    split <;> rw [reach_concat]

/-- Emitting pieces goes on by the text of all of them. -/
theorem reach_foldl_emit (tokens : List Token) (pieces : List Piece) :
    reach (pieces.foldl emit tokens) = reach tokens + Text.byteLength (Piece.textOf pieces) := by
  induction pieces generalizing tokens with
  | nil => rfl
  | cons p pieces ih =>
    rw [List.foldl_cons, ih, reach_emit, Piece.textOf_cons, Text.byteLength_append, Nat.add_assoc]

/-! ### Tokens cut at a byte -/

section Cut

variable {byte : Nat} {tokens own : List Token}

/-- Tokens that stop at the cut leave nothing behind it. -/
theorem filterMap_cutFrom?_of_stop_le (h : ∀ t ∈ tokens, t.stop ≤ byte) :
    tokens.filterMap (cutFrom? byte) = [] :=
  List.filterMap_eq_nil_iff.2 fun t ht ↦ if_pos (h t ht)

/-- Tokens that start behind the cut are left whole. -/
theorem filterMap_cutFrom?_map_shift (h : ∀ t ∈ own, t.start < t.stop) :
    (own.map (shift byte)).filterMap (cutFrom? byte) = own.map (shift byte) := by
  induction own with
  | nil => rfl
  | cons t own ih =>
    obtain ⟨ht, hmore⟩ := List.forall_mem_cons.1 h
    have hcut : cutFrom? byte (t.shift byte) = some (t.shift byte) := by
      have hstop : ¬t.stop + byte ≤ byte := by omega
      simp [cutFrom?, shift, hstop]
    rw [List.map_cons, List.filterMap_cons_some hcut, ih hmore]

/-- **Cut at the byte, tokens behind others are just those that they are**, joined or not. -/
theorem filterMap_cutFrom?_attach (htokens : ∀ t ∈ tokens, t.start ≤ t.stop ∧ t.stop ≤ byte)
    (hhead : ∀ t ∈ own.head?, t.start = 0) (hown : ∀ t ∈ own, t.start < t.stop) :
    (attach tokens (own.map (shift byte))).filterMap (cutFrom? byte) = own.map (shift byte) := by
  have hbefore := filterMap_cutFrom?_of_stop_le fun t ht ↦ (htokens t ht).2
  have hbehind : (own.map (shift byte)).filterMap (cutFrom? byte) = own.map (shift byte) :=
    filterMap_cutFrom?_map_shift hown
  cases own with
  | nil => exact hbefore
  | cons first later =>
    obtain ⟨hfirst, hlater⟩ := List.forall_mem_cons.1 hown
    rw [List.map_cons] at hbehind ⊢
    rcases tokens.eq_nil_or_concat with rfl | ⟨front, last, rfl⟩
    · exact hbehind
    · rw [List.concat_eq_append] at htokens hbefore ⊢
      rw [attach, add_concat]
      split
      · next hjoins =>
        -- the token that was joined reaches over the byte, and begins there once it is cut
        have hcut : cutFrom? byte { last with stop := (first.shift byte).stop } =
            some (first.shift byte) := by
          have hstart : first.start = 0 := hhead first rfl
          have hlast := htokens last (by simp)
          have hstop : ¬first.stop + byte ≤ byte := by omega
          have hmax : max last.start byte = byte := by omega
          have hscopes : last.scopes = first.scopes := hjoins.2.2
          simp [cutFrom?, shift, hstop, hmax, hstart, hscopes]
        have hfront : front.filterMap (cutFrom? byte) = [] :=
          filterMap_cutFrom?_of_stop_le fun t ht ↦ (htokens t (List.mem_append_left _ ht)).2
        rw [List.append_assoc, List.filterMap_append, hfront, List.nil_append,
          List.singleton_append, List.filterMap_cons_some hcut,
          filterMap_cutFrom?_map_shift hlater]
      · rw [List.append_assoc, List.filterMap_append, hbefore]
        exact hbehind

end Cut

end Token

/-! ### From a scan position on -/

section Line

variable {s u : Stack} {line rest : List Char} {done : List Piece}
  (h : Scans s line done u rest)
include h

/-- The pieces of a part of a scan have leaves only, as those of the whole scan have. -/
theorem Scans.isLeaf_of_mem {p : Piece} (hp : p ∈ done) : ∀ leaf ∈ p.leaf, leaf.isLeaf := by
  have hmem : p ∈ (scan s line).1 := by
    rw [h.scan_eq]
    exact List.mem_append_left _ hp
  exact isLeaf_of_mem_scan hmem

/-- The pieces behind the position are emitted behind the tokens that are there before. -/
theorem Scans.foldl_emit_rest :
    (scan u rest).1.foldl Token.emit (done.foldl Token.emit []) = (tokenizeLine line s).tokens := by
  rw [← List.foldl_append, ← foldl_emit_scan, h.scan_eq]

/-- The tokens that are there before come to an end at the position. -/
theorem Scans.stop_le_of_mem_foldl_emit {t : Token} (ht : t ∈ done.foldl Token.emit []) :
    t.start ≤ t.stop ∧ t.stop ≤ Text.byteLength (Piece.textOf done) := by
  rw [Token.foldl_emit_nil fun _ hp ↦ h.isLeaf_of_mem hp] at ht
  obtain ⟨before, p, after, hjoin, hstart, hstop, -⟩ := Token.exists_of_mem_layout ht
  rw [← Piece.textOf_join, hjoin, Piece.textOf_append, Piece.textOf_cons, Text.byteLength_append,
    Text.byteLength_append]
  omega

/-- **The tokens of the rest as a line of its own are those of the line from the position on.** -/
theorem Scans.tokens_eq_attach :
    (tokenizeLine line s).tokens =
      Token.attach (done.foldl Token.emit [])
        ((tokenizeLine rest u).tokens.map
          (Token.shift (Text.byteLength (Piece.textOf done)))) := by
  have hreach : Token.reach (done.foldl Token.emit []) =
      0 + Text.byteLength (Piece.textOf done) := Token.reach_foldl_emit [] done
  have hown : (Token.layout 0 (scan u rest).1).foldl Token.add [] =
      (tokenizeLine rest u).tokens := by
    rw [← foldl_emit_scan, Token.foldl_emit fun _ hp ↦ isLeaf_of_mem_scan hp]
    rfl
  have hshift := Token.foldl_add_map_shift (Text.byteLength (Piece.textOf done)) []
    (Token.layout 0 (scan u rest).1)
  rw [← h.foldl_emit_rest, Token.foldl_emit (fun _ hp ↦ isLeaf_of_mem_scan hp), hreach,
    Token.layout_add, ← hown, ← hshift]
  exact Token.foldl_add_attach _ [] _

/-- **From any position that the scan reaches on**, the tokens of the line are those of the rest,
shifted. -/
theorem Scans.filterMap_cutFrom?_tokens :
    (tokenizeLine line s).tokens.filterMap
        (Token.cutFrom? (Text.byteLength (Piece.textOf done))) =
      (tokenizeLine rest u).tokens.map (Token.shift (Text.byteLength (Piece.textOf done))) := by
  have hcovers := covers_tokenizeLine rest u
  rw [h.tokens_eq_attach]
  exact Token.filterMap_cutFrom?_attach (fun t ht ↦ h.stop_le_of_mem_foldl_emit ht)
    hcovers.head_start hcovers.start_lt_stop

/-- The rest of the line ends with the stack of the line. -/
theorem Scans.stack_tokenizeLine : (tokenizeLine line s).stack = (tokenizeLine rest u).stack := by
  rw [tokenizeLine, tokenizeLine, h.scan_eq]

end Line

/--
**Scanning is local to what is left of the line.** Where a scan has come to a position with a stack,
the stack at the end of the line is the one that the rest leaves as a line of its own, and the
tokens behind the position are those of the rest, moved. They follow the tokens that are there
before as they are, unless the last of these and the first of them are plain with the same scopes:
those two are one token, and the others follow as they are.

If another line with another stack to start from comes to the same stack with the same rest, it ends
with the same stack, and what its tokens are from the position on is the same up to the offsets.
-/
theorem tokenizeLine_suffix_local {s u : Stack} {line rest : List Char} {done : List Piece}
    (h : Scans s line done u rest) :
    let position := Text.byteLength (Piece.textOf done)
    let before := done.foldl Token.emit []
    let own := (tokenizeLine rest u).tokens
    Text.splitAtByte? position line = some (Piece.textOf done, rest) ∧
    (tokenizeLine line s).stack = (tokenizeLine rest u).stack ∧
    (scan u rest).1.foldl Token.emit before = (tokenizeLine line s).tokens ∧
    ((∀ last ∈ before.getLast?, ∀ first ∈ own.head?, ¬last.Joins first) →
      (tokenizeLine line s).tokens = before ++ own.map (Token.shift position)) ∧
    (∀ front last first later, before = front ++ [last] → own = first :: later →
      last.Joins first →
        last.stop = position ∧ first.start = 0 ∧
        (tokenizeLine line s).tokens =
          front ++ ⟨last.start, first.stop + position, last.scopes⟩ ::
            later.map (Token.shift position)) ∧
    ∀ {s' : Stack} {line' : List Char} {done' : List Piece}, Scans s' line' done' u rest →
      let position' := Text.byteLength (Piece.textOf done')
      (tokenizeLine line' s').stack = (tokenizeLine line s).stack ∧
      ∃ later : List Token,
        (tokenizeLine line s).tokens.filterMap (Token.cutFrom? position) =
          later.map (Token.shift position) ∧
        (tokenizeLine line' s').tokens.filterMap (Token.cutFrom? position') =
          later.map (Token.shift position') := by
  intro position before own
  have htokens : (tokenizeLine line s).tokens =
      Token.attach before (own.map (Token.shift position)) := h.tokens_eq_attach
  refine ⟨?_, h.stack_tokenizeLine, h.foldl_emit_rest, fun hjoins ↦ ?_,
    fun front last first later hbefore hown hjoins ↦ ?_, fun {s' line' done'} h' ↦ ?_⟩
  · exact Text.splitAtByte?_eq_some_iff.2 ⟨h.textOf_append.symm, rfl⟩
  · rw [htokens]
    refine Token.attach_of_not_joins fun last hlast moved hmoved ↦ ?_
    rw [List.head?_map] at hmoved
    obtain ⟨first, hfirst, rfl⟩ := Option.map_eq_some_iff.1 hmoved
    exact hjoins last hlast first hfirst
  -- What was emitted reaches just to the position, and the rest starts there.
  · have hreach : Token.reach before = position :=
      (Token.reach_foldl_emit [] done).trans (Nat.zero_add _)
    rw [hbefore, Token.reach_concat] at hreach
    have hstart : first.start = 0 :=
      (covers_tokenizeLine rest u).head_start first (congrArg List.head? hown)
    refine ⟨hreach, hstart, ?_⟩
    rw [htokens, hbefore, hown]
    exact Token.attach_of_joins hjoins
  · exact ⟨h'.stack_tokenizeLine.trans h.stack_tokenizeLine.symm, own,
      h.filterMap_cutFrom?_tokens, h'.filterMap_cutFrom?_tokens⟩

/--
Behind the question mark in `? 1` the blank is joined to it; behind the two quotes in `"" 1` it is a
token of its own. From the blank on both lines have the same tokens.
-/
theorem tokenizeLine_suffix_local_blank :
    Scans [] ['?', ' ', '1'] [⟨['?'], [], none⟩] [] [' ', '1'] ∧
    Token.Joins ⟨0, 1, [.source]⟩ ⟨0, 1, [.source]⟩ ∧
    (tokenizeLine ['?', ' ', '1'] []).tokens =
      [⟨0, 2, [.source]⟩, ⟨2, 3, [.source, .number]⟩] ∧
    Scans [] ['"', '"', ' ', '1']
      [⟨['"'], [.quoted false], some .stringMark⟩, ⟨['"'], [.quoted false], some .stringMark⟩] []
      [' ', '1'] ∧
    ∃ later : List Token,
      (tokenizeLine ['?', ' ', '1'] []).tokens.filterMap (Token.cutFrom? 1) =
        later.map (Token.shift 1) ∧
      (tokenizeLine ['"', '"', ' ', '1'] []).tokens.filterMap (Token.cutFrom? 2) =
        later.map (Token.shift 2) := by
  have hmark : Scans [] ['?', ' ', '1'] [⟨['?'], [], none⟩] [] [' ', '1'] :=
    scans_of_scanStep rfl rfl
  have hopen : Scans [] ['"', '"', ' ', '1'] [⟨['"'], [.quoted false], some .stringMark⟩]
      [.quoted false] ['"', ' ', '1'] := scans_of_scanStep rfl rfl
  have hclose : Scans [.quoted false] ['"', ' ', '1']
      [⟨['"'], [.quoted false], some .stringMark⟩] [] [' ', '1'] := scans_of_scanStep rfl rfl
  have hjoins : Token.Joins ⟨0, 1, [.source]⟩ ⟨0, 1, [.source]⟩ := by decide
  have hown : (tokenizeLine [' ', '1'] []).tokens =
      [⟨0, 1, [.source]⟩, ⟨1, 2, [.source, .number]⟩] := by decide +kernel
  obtain ⟨-, -, -, -, hjoined, hother⟩ := tokenizeLine_suffix_local hmark
  have htokens := (hjoined [] _ _ _ rfl hown hjoins).2.2
  exact ⟨hmark, hjoins, htokens, hopen.trans hclose, (hother (hopen.trans hclose)).2⟩

end RonWorkbench
