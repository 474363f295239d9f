import Mathlib.Algebra.Group.Nat.Even
import Mathlib.Data.List.DropRight
import RonWorkbench.Proofs.Literal.Basic
import RonWorkbench.Proofs.Literal.Escape

/-!
# Quoted strings and character literals

A quoted string and a character literal know escapes and are closed by a quote that is not escaped.
Which quote that is can be told without reading an escape: the first one that an even number of
backslashes stands in front of (`Quoted.Unescaped`). The scan counts no backslashes but splits the
text into characters and escapes, from the left (`Quoted.Splits`); `tokenizeLine_quoted` says that
the two agree, and what becomes of the line.

They agree because at each scan position the backslashes in front come in pairs, the escapes there
being complete. The one exception is a backslash that escapes nothing, and it has nothing or a
newline behind it, which is no quote (`Quoted.Ready`).
-/

namespace RonWorkbench

namespace Quoted

/-- The number of backslashes that a text ends with, one behind the other. -/
def backslashes (before : List Char) : Nat :=
  (before.rtakeWhile (· == '\\')).length

/-- The quote stands here, with an even number of backslashes in front of it. -/
def Unescaped (quote : Char) (before behind : List Char) : Prop :=
  behind.head? = some quote ∧ Even (backslashes before)

instance (quote : Char) (before behind : List Char) : Decidable (Unescaped quote before behind) :=
  inferInstanceAs (Decidable (_ ∧ _))

/-- Neither the quote nor a backslash. -/
def isOrdinary (quote c : Char) : Bool :=
  c != quote && c != '\\'

/-- Text split into escapes and characters from the left, up to some rest. -/
inductive Splits : List Char → List Atom → List Char → Prop
  | stop (rest : List Char) : Splits rest [] rest
  | escape {more body next rest : List Char} {atoms : List Atom}
      (hbody : Lexeme.Escapes more body) (hmore : more = body ++ next)
      (h : Splits next atoms rest) :
      Splits ('\\' :: more) (.mark ('\\' :: body) .escape :: atoms) rest
  | char {c : Char} {more rest : List Char} {atoms : List Atom} (hc : c ≠ '\\')
      (h : Splits more atoms rest) : Splits (c :: more) (.char c :: atoms) rest

/--
The escapes in front of a scan position are complete: the backslashes there come in pairs, or
nothing follows that is escaped or is a quote.
-/
def Ready (before rest : List Char) : Prop :=
  Even (backslashes before) ∨ ∀ c ∈ rest.head?, c = '\n'

/-! ### Splitting text -/

namespace Splits

variable {text rest : List Char} {a b : List Atom}

/-- What is left of a text is no longer than the text. -/
theorem length_le (h : Splits text a rest) : rest.length ≤ text.length := by
  induction h with
  | stop => exact le_rfl
  | escape hbody hmore h ih =>
    subst hmore
    simp only [List.length_cons, List.length_append]
    omega
  | char hc h ih => exact ih.trans (Nat.le_succ _)

/-- A split that has taken something is not back where it started. -/
theorem ne_cons_append (h : Splits text a rest) (c : Char) (w : List Char) :
    rest ≠ c :: (w ++ text) := by
  rintro rfl
  have hlength := h.length_le
  simp only [List.length_cons, List.length_append] at hlength
  omega

/-- **There is one way at most to split a text in front of a rest.** -/
theorem unique (ha : Splits text a rest) (hb : Splits text b rest) : a = b := by
  -- the rest tells where both splits stop, and the text what each step takes
  induction ha generalizing b with
  | stop rest =>
    cases hb with
    | stop => rfl
    | escape hbody hmore h => exact absurd (by rw [hmore]) (h.ne_cons_append '\\' _)
    | char hc h => exact absurd rfl (h.ne_cons_append _ [])
  | escape hbody hmore h ih =>
    cases hb with
    | stop => exact absurd (by rw [hmore]) (h.ne_cons_append '\\' _)
    | escape hbody' hmore' h' =>
      obtain rfl := (Lexeme.escapes_iff.1 hbody).trans (Lexeme.escapes_iff.1 hbody').symm
      obtain rfl := List.append_cancel_left (hmore.symm.trans hmore')
      rw [ih h']
    | char hc => exact absurd rfl hc
  | char hc h ih =>
    cases hb with
    | stop => exact absurd rfl (h.ne_cons_append _ [])
    | escape => exact absurd rfl hc
    | char hc' h' => rw [ih h']

/-- A text without a backslash is read as its characters, whatever comes behind it. -/
theorem append_of_notMem {w : List Char} (hw : '\\' ∉ w) (h : Splits text a rest) :
    Splits (w ++ text) (w.map .char ++ a) rest := by
  induction w with
  | nil => exact h
  | cons c w ih =>
    rw [List.mem_cons, not_or] at hw
    exact .char (Ne.symm hw.1) (ih hw.2)

end Splits

/-! ### Counting backslashes -/

/-- A backslash adds one to the run in front, and any other character ends it. -/
theorem backslashes_concat (before : List Char) (c : Char) :
    backslashes (before ++ [c]) = if c = '\\' then backslashes before + 1 else 0 := by
  by_cases hc : c = '\\'
  · simp [backslashes, hc]
  · simp [backslashes, hc]

/-- Behind a character that is no backslash the run is empty. -/
theorem backslashes_append_concat (before front : List Char) {c : Char} (hc : c ≠ '\\') :
    backslashes (before ++ (front ++ [c])) = 0 := by
  rw [← List.append_assoc, backslashes_concat, if_neg hc]

/-- Behind text without a backslash there is no escape that is not complete. -/
theorem ready_append_of_notMem (before : List Char) {w : List Char} (hne : w ≠ [])
    (hw : '\\' ∉ w) (rest : List Char) : Ready (before ++ w) rest := by
  obtain ⟨front, c, rfl⟩ := (List.eq_nil_or_concat' w).resolve_left hne
  have hc : c ≠ '\\' := by
    rintro rfl
    simp at hw
  rw [Ready, backslashes_append_concat before front hc]
  exact .inl .zero

/-- Behind an escape the escapes are complete again. -/
theorem ready_of_escapes {before body next : List Char} (h : Lexeme.Escapes (body ++ next) body)
    (hbefore : Even (backslashes before)) : Ready (before ++ '\\' :: body) next := by
  rcases h.ends with ⟨front, c, rfl, hc⟩ | rfl | ⟨rfl, hnext⟩
  · exact .inl (by rw [← List.cons_append, backslashes_append_concat before _ hc]; exact .zero)
  · have htwo : before ++ ['\\', '\\'] = before ++ ['\\'] ++ ['\\'] := by simp
    rw [htwo, Ready, backslashes_concat, if_pos rfl, backslashes_concat, if_pos rfl]
    exact .inl (by simpa [Nat.even_add_one] using hbefore)
  · exact .inr hnext

/-- Nowhere in text without the quote is the literal closed. -/
theorem not_unescaped_of_notMem {quote : Char} {w : List Char} (hw : quote ∉ w) {a b : List Char}
    (hab : w = a ++ b) (hb : b ≠ []) (before more : List Char) :
    ¬Unescaped quote before (b ++ more) := by
  obtain ⟨c, b, rfl⟩ := List.exists_cons_of_ne_nil hb
  rintro ⟨hhead, -⟩
  obtain rfl : c = quote := by simpa using hhead
  simp [hab] at hw

theorem quote_notMem_run {quote c : Char} (hc : c ≠ quote) (rest : List Char) :
    quote ∉ c :: rest.takeWhile (isOrdinary quote) := by
  rw [List.mem_cons, not_or]
  exact ⟨hc.symm, Literal.notMem_takeWhile (by simp [isOrdinary]) rest⟩

theorem backslash_notMem_run (quote : Char) {c : Char} (hc : c ≠ '\\') (rest : List Char) :
    '\\' ∉ c :: rest.takeWhile (isOrdinary quote) := by
  rw [List.mem_cons, not_or]
  exact ⟨hc.symm, Literal.notMem_takeWhile (by simp [isOrdinary]) rest⟩

section Quote

variable {f : Frame} {quote : Char} (hf : f.hasEscapes) (hquote : f.closing = [quote])
include hf hquote

/-- The literals with escapes are strings and characters. -/
theorem quote_eq : quote = '"' ∨ quote = '\'' := by
  cases f with
  | quoted byte => exact .inl (by simpa [Frame.closing] using hquote.symm)
  | character byte => exact .inr (by simpa [Frame.closing] using hquote.symm)
  | _ => simp [Frame.hasEscapes] at hf

/-- A quote inside an escape is escaped: nowhere in an escape is the literal closed. -/
theorem not_unescaped_of_escapes {before body next : List Char}
    (h : Lexeme.Escapes (body ++ next) body) (hbefore : Even (backslashes before))
    {a b : List Char} (hab : '\\' :: body = a ++ b) (hb : b ≠ []) (more : List Char) :
    ¬Unescaped quote (before ++ a) (b ++ more) := by
  have hquotes := quote_eq hf hquote
  have htail : quote ∉ body.tail := fun hmem ↦ by
    have hform := h.of_mem_tail hmem
    rcases hquotes with rfl | rfl <;> revert hform <;> decide
  cases a with
  | nil =>
    -- the escape starts with its backslash
    obtain rfl : '\\' :: body = b := hab
    rintro ⟨hhead, -⟩
    rcases hquotes with rfl | rfl <;> simp at hhead
  | cons c a =>
    obtain ⟨rfl, rfl⟩ := List.cons.inj hab
    cases a with
    | nil =>
      -- the backslash stands in front of the cut
      rintro ⟨-, heven⟩
      rw [backslashes_concat, if_pos rfl, Nat.even_add_one] at heven
      exact heven hbefore
    | cons d a => exact not_unescaped_of_notMem htail rfl hb _ _

/-! ### Steps inside quoted text -/

theorem scanStep_quote (below : Stack) (more : List Char) :
    scanStep (f :: below) quote more =
      ⟨[⟨f.closing, f :: below, some f.mark⟩], below⟩ := by
  cases f with
  | quoted byte =>
    obtain rfl : '"' = quote := by simpa [Frame.closing] using hquote
    rfl
  | character byte =>
    obtain rfl : '\'' = quote := by simpa [Frame.closing] using hquote
    rfl
  | _ => simp [Frame.hasEscapes] at hf

/-- All up to the next quote or backslash is one plain piece. -/
theorem scanStep_run (below : Stack) {c : Char} (hc : c ≠ quote) (hc' : c ≠ '\\')
    (more : List Char) :
    scanStep (f :: below) c more =
      ⟨[⟨c :: more.takeWhile (isOrdinary quote), f :: below, none⟩], f :: below⟩ := by
  cases f with
  | quoted byte =>
    obtain rfl : '"' = quote := by simpa [Frame.closing] using hquote
    have hrun : isOrdinary '"' = fun d ↦ d != '"' && d != '\\' := rfl
    simp [hrun, scanStep, Lexeme.recognise?, Lexeme.insideQuoted?, Lexeme.escape?, Lexeme.run?, hc,
      hc', Lexeme.step, Step.plain, Lexeme.text, Lexeme.parts]
  | character byte =>
    obtain rfl : '\'' = quote := by simpa [Frame.closing] using hquote
    have hrun : isOrdinary '\'' = fun d ↦ d != '\'' && d != '\\' := rfl
    simp [hrun, scanStep, Lexeme.recognise?, Lexeme.insideCharacter?, Lexeme.escape?, Lexeme.run?,
      hc, hc', Lexeme.step, Step.plain, Lexeme.text, Lexeme.parts]
  | _ => simp [Frame.hasEscapes] at hf

omit hquote in
/-- A backslash takes as many characters with it as its escape has. -/
theorem scanStep_backslash (below : Stack) (more : List Char) :
    scanStep (f :: below) '\\' more =
      ⟨[⟨'\\' :: Lexeme.escaped more, f :: below, some .escape⟩], f :: below⟩ := by
  cases f with
  | quoted byte =>
    simp [scanStep, Lexeme.recognise?, Lexeme.insideQuoted?, Lexeme.escape?, Lexeme.step,
      Step.classify, Lexeme.text, Lexeme.parts]
  | character byte =>
    simp [scanStep, Lexeme.recognise?, Lexeme.insideCharacter?, Lexeme.escape?, Lexeme.step,
      Step.classify, Lexeme.text, Lexeme.parts]
  | _ => simp [Frame.hasEscapes] at hf

/-! ### The scan of quoted text -/

/-- A step that takes an escape. -/
theorem reads_escape (below : Stack) {before body next : List Char}
    (hbody : Lexeme.Escapes (body ++ next) body) (hbefore : Even (backslashes before))
    (h : Literal.Reads f below Splits
      (fun text ↦ Unescaped quote (before ++ '\\' :: body ++ text)) next) :
    Literal.Reads f below Splits (fun text ↦ Unescaped quote (before ++ text))
      ('\\' :: (body ++ next)) := by
  have hstep := scanStep_backslash hf below (body ++ next)
  rw [← Lexeme.escapes_iff.1 hbody] at hstep
  refine .step hstep rfl rfl (fun a b hab hb ↦ ?_) (fun hatoms ↦ ?_) (by simpa using h)
  · exact not_unescaped_of_escapes hf hquote hbody hbefore hab hb next
  · exact .escape hbody rfl hatoms

/-- A step that takes a run of text. -/
theorem reads_run (below : Stack) {before rest : List Char} {c : Char} (hc : c ≠ quote)
    (hc' : c ≠ '\\')
    (h : Literal.Reads f below Splits
      (fun text ↦ Unescaped quote (before ++ c :: rest.takeWhile (isOrdinary quote) ++ text))
      (rest.dropWhile (isOrdinary quote))) :
    Literal.Reads f below Splits (fun text ↦ Unescaped quote (before ++ text)) (c :: rest) := by
  have hstep := scanStep_run hf hquote below hc hc' rest
  have hrest : c :: rest =
      c :: rest.takeWhile (isOrdinary quote) ++ rest.dropWhile (isOrdinary quote) := by
    rw [List.cons_append, List.takeWhile_append_dropWhile]
  refine .step hstep hrest rfl (fun a b hab hb ↦ ?_) (fun hatoms ↦ ?_) (by simpa using h)
  · exact not_unescaped_of_notMem (quote_notMem_run hc rest) hab hb _ _
  · rw [hrest]
    exact hatoms.append_of_notMem (backslash_notMem_run quote hc' rest)

/-- **Inside quoted text the scan reads escapes and characters up to the first unescaped quote.** -/
theorem reads (below : Stack) {before rest : List Char} (hready : Ready before rest) :
    Literal.Reads f below Splits (fun text ↦ Unescaped quote (before ++ text)) rest := by
  have hquotes := quote_eq hf hquote
  -- a step may take many characters, so the induction is on how many are left
  induction hlength : rest.length using Nat.strong_induction_on generalizing before rest with
  | _ length ih =>
  subst hlength
  cases rest with
  | nil => exact .nil (by simp [Unescaped]) (.stop [])
  | cons c rest =>
    have heven (hc : c ≠ '\n') : Even (backslashes before) :=
      hready.resolve_right fun h ↦ hc (h c rfl)
    by_cases hc : c = quote
    · subst hc
      have hstep := scanStep_quote hf hquote below rest
      have hcloses : Unescaped c (before ++ []) (c :: rest) := by
        refine ⟨rfl, ?_⟩
        rw [List.append_nil]
        exact heven (by rcases hquotes with rfl | rfl <;> decide)
      exact .close hstep (by rw [hquote]; rfl) hcloses (.stop _)
    by_cases hc' : c = '\\'
    · subst hc'
      have hbody := Lexeme.escapes_escaped rest
      obtain ⟨next, hnext⟩ := hbody.isPrefix
      generalize Lexeme.escaped rest = body at hbody hnext
      subst hnext
      have hbefore := heven (by decide)
      have hshorter : next.length < ('\\' :: (body ++ next)).length := by
        simp only [List.length_cons, List.length_append]
        omega
      have hmore := ih _ hshorter (ready_of_escapes hbody hbefore) rfl
      exact reads_escape hf hquote below hbody hbefore hmore
    · have hrun := backslash_notMem_run quote hc' rest
      have hshorter : (rest.dropWhile (isOrdinary quote)).length < (c :: rest).length :=
        Nat.lt_succ_of_le (List.dropWhile_suffix _).length_le
      have hmore := ih _ hshorter (ready_append_of_notMem before (by simp) hrun _) rfl
      exact reads_run hf hquote below hc hc' hmore

end Quote

/--
**Quoted text is closed by the first quote that is not escaped.** From a scan position inside a
quoted string or a character literal on, at the start of a line or behind the opener, let the text
up to the first quote with an even number of backslashes in front of it be split into escapes and
characters, which can be done in one way. These are the pieces, with the quote behind them, and the
line goes on behind it with the constructs around the literal. Without such a quote all that is left
is split, and at the end of the line a string is carried to the next one and a character literal is
dropped.
-/
theorem tokenizeLine_quoted {f : Frame} {quote : Char} (hf : f.hasEscapes)
    (hquote : f.closing = [quote]) {s below : Stack} {line rest : List Char} {front : List Piece}
    (hrun : Scans s line front (f :: below) rest) (hfront : Piece.EndsClassified front) :
    (∀ body more, rest = body ++ quote :: more →
      Text.IsFirstCut (Unescaped quote) body (quote :: more) →
        (∃ atoms, Splits rest atoms (quote :: more)) ∧
        ∀ atoms, Splits rest atoms (quote :: more) →
          tokenizeLine line s = (tokenizeLine more below).behind
            (Piece.join front ++
              (Atom.pieces (f :: below) atoms ++ [⟨[quote], f :: below, some f.mark⟩]))) ∧
    (Text.HasNoCut (Unescaped quote) rest →
      (∃ atoms, Splits rest atoms []) ∧
      ∀ atoms, Splits rest atoms [] →
        tokenizeLine line s =
          LineTokens.behind ⟨[], if f.isLineLocal then below.endLine else f :: below⟩
            (Piece.join front ++ Atom.pieces (f :: below) atoms)) := by
  have hready : Ready [] rest := .inl (by decide)
  have htokens := (reads hf hquote below hready).tokenizeLine_eq hrun hfront Splits.unique
  have hstack : Stack.endLine (f :: below) =
      if f.isLineLocal then below.endLine else f :: below := by
    rw [Stack.endLine, List.dropWhile_cons]
    rfl
  rw [hquote, hstack] at htokens
  exact ⟨fun body more ↦ htokens.1 body (quote :: more), htokens.2⟩

/--
An escaped backslash, an escaped quote, a long escape and one that is cut short: the string on the
line `"\\\"\u{1F}\x4",` is closed by its last quote. The character literal on the line `\'\` is not
closed, and its last backslash escapes nothing.
-/
theorem tokenizeLine_quoted_short_escapes :
    Scans [] ['"', '\\', '\\', '\\', '"', '\\', 'u', '{', '1', 'F', '}', '\\', 'x', '4', '"', ',']
      [⟨['"'], [.quoted false], some .stringMark⟩] [.quoted false]
      ['\\', '\\', '\\', '"', '\\', 'u', '{', '1', 'F', '}', '\\', 'x', '4', '"', ','] ∧
    Text.IsFirstCut (Unescaped '"')
      ['\\', '\\', '\\', '"', '\\', 'u', '{', '1', 'F', '}', '\\', 'x', '4'] ['"', ','] ∧
    tokenizeLine
        ['"', '\\', '\\', '\\', '"', '\\', 'u', '{', '1', 'F', '}', '\\', 'x', '4', '"', ','] [] =
      (tokenizeLine [','] []).behind
        [⟨['"'], [.quoted false], some .stringMark⟩,
          ⟨['\\', '\\'], [.quoted false], some .escape⟩,
          ⟨['\\', '"'], [.quoted false], some .escape⟩,
          ⟨['\\', 'u', '{', '1', 'F', '}'], [.quoted false], some .escape⟩,
          ⟨['\\', 'x'], [.quoted false], some .escape⟩, ⟨['4'], [.quoted false], none⟩,
          ⟨['"'], [.quoted false], some .stringMark⟩] ∧
    Text.HasNoCut (Unescaped '\'') ['\\', '\'', '\\'] ∧
    tokenizeLine ['\\', '\'', '\\'] [.character false, .group .brackets] =
      LineTokens.behind ⟨[], [.group .brackets]⟩
        [⟨['\\', '\''], [.character false, .group .brackets], some .escape⟩,
          ⟨['\\'], [.character false, .group .brackets], some .escape⟩] := by
  have hrun : Scans []
      ['"', '\\', '\\', '\\', '"', '\\', 'u', '{', '1', 'F', '}', '\\', 'x', '4', '"', ',']
      [⟨['"'], [.quoted false], some .stringMark⟩] [.quoted false]
      ['\\', '\\', '\\', '"', '\\', 'u', '{', '1', 'F', '}', '\\', 'x', '4', '"', ','] :=
    Scans.one [] '"' _
  have hfront : Piece.EndsClassified [⟨['"'], [.quoted false], some .stringMark⟩] := by
    simp [Piece.EndsClassified, Piece.isPlain]
  have hfirst : Text.IsFirstCut (Unescaped '"')
      ['\\', '\\', '\\', '"', '\\', 'u', '{', '1', 'F', '}', '\\', 'x', '4'] ['"', ','] := by
    decide
  have hclosed := (tokenizeLine_quoted rfl rfl hrun hfront).1 _ _ rfl hfirst
  have hsplits : Splits
      ['\\', '\\', '\\', '"', '\\', 'u', '{', '1', 'F', '}', '\\', 'x', '4', '"', ',']
      [.mark ['\\', '\\'] .escape, .mark ['\\', '"'] .escape,
        .mark ['\\', 'u', '{', '1', 'F', '}'] .escape, .mark ['\\', 'x'] .escape, .char '4']
      ['"', ','] :=
    .escape (Lexeme.escapes_iff.2 rfl) rfl <| .escape (Lexeme.escapes_iff.2 rfl) rfl <|
      .escape (Lexeme.escapes_iff.2 rfl) rfl <| .escape (Lexeme.escapes_iff.2 rfl) rfl <|
        .char (by decide) (.stop _)
  have hnone : Text.HasNoCut (Unescaped '\'') ['\\', '\'', '\\'] := by decide
  have hstart : Scans [.character false, .group .brackets] ['\\', '\'', '\\'] []
      [.character false, .group .brackets] ['\\', '\'', '\\'] := .refl _ _
  have hcarried := (tokenizeLine_quoted rfl rfl hstart Piece.endsClassified_nil).2 hnone
  have hlone : Splits ['\\', '\'', '\\']
      [.mark ['\\', '\''] .escape, .mark ['\\'] .escape] [] :=
    .escape (Lexeme.escapes_iff.2 rfl) rfl <| .escape (Lexeme.escapes_iff.2 rfl) rfl (.stop [])
  exact ⟨hrun, hfirst, hclosed.2 _ hsplits, hnone, hcarried.2 _ hlone⟩

end Quoted

end RonWorkbench
