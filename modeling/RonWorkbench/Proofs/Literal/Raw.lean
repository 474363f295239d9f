import RonWorkbench.Proofs.Literal.Basic

/-!
# Raw strings

A raw string is closed by a quote with just as many hashes behind it as its opener had
(`RawString.StartsCloser`), and nothing else in it means anything: it is all characters
(`RawString.IsText`). `tokenizeLine_rawQuoted` says that the first closer is where the scan leaves
the string, and that all in front of it is one piece of text.

The scan takes a quote together with all hashes behind it, so a quote with another number of hashes
is a step of text, like the runs between quotes. Neither has a closer in it: behind the first
character of such a step there is no quote (`RawString.not_startsCloser_of_notMem`).
-/

namespace RonWorkbench

namespace RawString

/-- A quote stands here with just so many hashes behind it, neither fewer nor more. -/
def StartsCloser (hashes : Nat) (text : List Char) : Prop :=
  text.head? = some '"' ∧ (text.tail.takeWhile (· == '#')).length = hashes

instance (hashes : Nat) (text : List Char) : Decidable (StartsCloser hashes text) :=
  inferInstanceAs (Decidable (_ ∧ _))

/-- The text in front of the rest is read as characters, whatever they are. -/
def IsText (text : List Char) (atoms : List Atom) (rest : List Char) : Prop :=
  ∃ body, text = body ++ rest ∧ atoms = body.map .char

theorem IsText.unique {text rest : List Char} {a b : List Atom} (ha : IsText text a rest)
    (hb : IsText text b rest) : a = b := by
  obtain ⟨v, rfl, rfl⟩ := ha
  obtain ⟨w, hw, rfl⟩ := hb
  rw [List.append_cancel_right hw]

theorem IsText.append {w text rest : List Char} {atoms : List Atom}
    (h : IsText text atoms rest) : IsText (w ++ text) (w.map .char ++ atoms) rest := by
  obtain ⟨body, rfl, rfl⟩ := h
  exact ⟨w ++ body, (List.append_assoc _ _ _).symm, List.map_append.symm⟩

/-! ### Steps inside a raw string -/

section Step

variable (hashes : Nat) (byte : Bool) (below : Stack)

/-- A quote with the opener's number of hashes closes the string. -/
theorem scanStep_closer {more : List Char} (h : (more.takeWhile (· == '#')).length = hashes) :
    scanStep (.rawQuoted hashes byte :: below) '"' more =
      ⟨[⟨'"' :: Lexeme.hashRun hashes, .rawQuoted hashes byte :: below, some .stringMark⟩],
        below⟩ := by
  simp [scanStep, Lexeme.recognise?, Lexeme.insideRaw?, Lexeme.step, Lexeme.rawQuoteStep, h,
    Step.closeFrame, Lexeme.text, Lexeme.parts]

/-- A quote with another number of hashes is text. -/
theorem scanStep_quote {more : List Char} (h : (more.takeWhile (· == '#')).length ≠ hashes) :
    scanStep (.rawQuoted hashes byte :: below) '"' more =
      ⟨[⟨'"' :: more.takeWhile (· == '#'), .rawQuoted hashes byte :: below, none⟩],
        .rawQuoted hashes byte :: below⟩ := by
  rw [Lexeme.takeWhile_hash more]
  simp [scanStep, Lexeme.recognise?, Lexeme.insideRaw?, Lexeme.step, Lexeme.rawQuoteStep, h.symm,
    Step.plain, Lexeme.text, Lexeme.parts]

/-- Up to the next quote all is text. -/
theorem scanStep_run {c : Char} (hc : c ≠ '"') (more : List Char) :
    scanStep (.rawQuoted hashes byte :: below) c more =
      ⟨[⟨c :: more.takeWhile (· != '"'), .rawQuoted hashes byte :: below, none⟩],
        .rawQuoted hashes byte :: below⟩ := by
  simp [scanStep, Lexeme.recognise?, Lexeme.insideRaw?, Lexeme.run?, hc, Lexeme.step, Step.plain,
    Lexeme.text, Lexeme.parts]

end Step

/-! ### The scan of a raw string -/

/-- No closer lies in text that starts with none and has no quote behind its first character. -/
theorem not_startsCloser_of_notMem {hashes : Nat} {c : Char} {w more : List Char}
    (hfirst : ¬StartsCloser hashes (c :: w ++ more)) (hw : '"' ∉ w) {a b : List Char}
    (hab : c :: w = a ++ b) (hb : b ≠ []) : ¬StartsCloser hashes (b ++ more) := by
  cases a with
  | nil =>
    obtain rfl : c :: w = b := hab
    exact hfirst
  | cons d a =>
    obtain ⟨q, b, rfl⟩ := List.exists_cons_of_ne_nil hb
    obtain ⟨-, rfl⟩ := List.cons.inj hab
    rintro ⟨hhead, -⟩
    obtain rfl : q = '"' := by simpa using hhead
    simp at hw

/-- A step that takes a character and a run behind it, and no closer. -/
theorem reads_run {hashes : Nat} {byte : Bool} {below : Stack} {c : Char} {rest : List Char}
    {test : Char → Bool} (htest : test '"' = false)
    (hstep : scanStep (.rawQuoted hashes byte :: below) c rest =
      ⟨[⟨c :: rest.takeWhile test, .rawQuoted hashes byte :: below, none⟩],
        .rawQuoted hashes byte :: below⟩)
    (hfirst : ¬StartsCloser hashes (c :: rest))
    (h : Literal.Reads (.rawQuoted hashes byte) below IsText (fun _ ↦ StartsCloser hashes)
      (rest.dropWhile test)) :
    Literal.Reads (.rawQuoted hashes byte) below IsText (fun _ ↦ StartsCloser hashes)
      (c :: rest) := by
  have hrest : c :: rest = c :: rest.takeWhile test ++ rest.dropWhile test := by
    rw [List.cons_append, List.takeWhile_append_dropWhile]
  have hrun := Literal.notMem_takeWhile htest rest
  refine .step hstep hrest rfl (fun a b hab hb ↦ ?_) (fun hatoms ↦ ?_) h
  · exact not_startsCloser_of_notMem (by rwa [← hrest]) hrun hab hb
  · rw [hrest]
    exact hatoms.append

/-- **Inside a raw string the scan reads text up to the first closer.** -/
theorem reads (hashes : Nat) (byte : Bool) (below : Stack) (rest : List Char) :
    Literal.Reads (.rawQuoted hashes byte) below IsText (fun _ ↦ StartsCloser hashes) rest := by
  -- a step may take many characters, so the induction is on how many are left
  induction hlength : rest.length using Nat.strong_induction_on generalizing rest with
  | _ length ih =>
  subst hlength
  cases rest with
  | nil => exact .nil (by simp [StartsCloser]) ⟨[], rfl, rfl⟩
  | cons c rest =>
    have hmore (test : Char → Bool) :=
      ih _ (Nat.lt_succ_of_le (List.dropWhile_suffix test).length_le) (rest.dropWhile test) rfl
    by_cases hc : c = '"'
    · subst hc
      by_cases hhashes : (rest.takeWhile (· == '#')).length = hashes
      · have hrest : rest = Lexeme.hashRun hashes ++ rest.dropWhile (· == '#') := by
          rw [← hhashes, ← Lexeme.takeWhile_hash, List.takeWhile_append_dropWhile]
        have hclose := scanStep_closer hashes byte below hhashes
        exact .close hclose (congrArg _ hrest) ⟨rfl, hhashes⟩ ⟨[], rfl, rfl⟩
      · have hstep := scanStep_quote hashes byte below hhashes
        exact reads_run rfl hstep (fun h ↦ hhashes h.2) (hmore _)
    · have hstep := scanStep_run hashes byte below hc rest
      exact reads_run rfl hstep (fun h ↦ hc (by simpa using h.1)) (hmore _)

/--
**A raw string is closed by the first quote with its number of hashes.** From a scan position inside
a raw string on, at the start of a line or behind its opener, all in front of that quote is one
plain piece, whatever stands in it, the quote with its hashes is another one, and behind them the
line goes on with the constructs around the string. Without such a quote all that is left is one
plain piece, and the string is carried to the next line as it is.
-/
theorem tokenizeLine_rawQuoted {s below : Stack} {line rest : List Char} {front : List Piece}
    {hashes : Nat} {byte : Bool} (hrun : Scans s line front (.rawQuoted hashes byte :: below) rest)
    (hfront : Piece.EndsClassified front) :
    (∀ body tail, rest = body ++ '"' :: tail →
      Text.IsFirstCut (fun _ ↦ StartsCloser hashes) body ('"' :: tail) →
        tokenizeLine line s = (tokenizeLine (tail.drop hashes) below).behind
          (Piece.join front ++ (Piece.plain (.rawQuoted hashes byte :: below) body ++
            [⟨'"' :: Lexeme.hashRun hashes, .rawQuoted hashes byte :: below,
              some .stringMark⟩]))) ∧
    (Text.HasNoCut (fun _ ↦ StartsCloser hashes) rest →
      tokenizeLine line s = LineTokens.behind ⟨[], .rawQuoted hashes byte :: below⟩
        (Piece.join front ++ Piece.plain (.rawQuoted hashes byte :: below) rest)) := by
  obtain ⟨hclosed, hcarried⟩ :=
    (reads hashes byte below rest).tokenizeLine_eq hrun hfront IsText.unique
  constructor
  · rintro body tail rfl hfirst
    have htokens := (hclosed _ _ rfl hfirst).2 _ ⟨body, rfl, rfl⟩
    rw [Atom.pieces_map_char] at htokens
    simpa [Frame.closing, Frame.mark] using htokens
  · intro hnone
    have htokens := (hcarried hnone).2 _ ⟨rest, (List.append_nil _).symm, rfl⟩
    rwa [Atom.pieces_map_char] at htokens

/--
Quotes with too few, too many and the right number of hashes: on the line `r#"a"b"##"#,` the string
is closed by the last quote, and on the line `a"##` it is not closed.
-/
theorem tokenizeLine_rawQuoted_other_runs :
    Scans [] ['r', '#', '"', 'a', '"', 'b', '"', '#', '#', '"', '#', ',']
      [⟨['r', '#', '"'], [.rawQuoted 1 false], some .stringMark⟩] [.rawQuoted 1 false]
      ['a', '"', 'b', '"', '#', '#', '"', '#', ','] ∧
    Text.IsFirstCut (fun _ ↦ StartsCloser 1) ['a', '"', 'b', '"', '#', '#'] ['"', '#', ','] ∧
    tokenizeLine ['r', '#', '"', 'a', '"', 'b', '"', '#', '#', '"', '#', ','] [] =
      (tokenizeLine [','] []).behind
        [⟨['r', '#', '"'], [.rawQuoted 1 false], some .stringMark⟩,
          ⟨['a', '"', 'b', '"', '#', '#'], [.rawQuoted 1 false], none⟩,
          ⟨['"', '#'], [.rawQuoted 1 false], some .stringMark⟩] ∧
    Text.HasNoCut (fun _ ↦ StartsCloser 1) ['a', '"', '#', '#'] ∧
    tokenizeLine ['a', '"', '#', '#'] [.rawQuoted 1 false] =
      LineTokens.behind ⟨[], [.rawQuoted 1 false]⟩
        [⟨['a', '"', '#', '#'], [.rawQuoted 1 false], none⟩] := by
  have hrun : Scans [] ['r', '#', '"', 'a', '"', 'b', '"', '#', '#', '"', '#', ',']
      [⟨['r', '#', '"'], [.rawQuoted 1 false], some .stringMark⟩] [.rawQuoted 1 false]
      ['a', '"', 'b', '"', '#', '#', '"', '#', ','] :=
    Scans.one [] 'r' _
  have hfront : Piece.EndsClassified
      [⟨['r', '#', '"'], [.rawQuoted 1 false], some .stringMark⟩] := by
    simp [Piece.EndsClassified, Piece.isPlain]
  have hfirst : Text.IsFirstCut (fun _ ↦ StartsCloser 1) ['a', '"', 'b', '"', '#', '#']
      ['"', '#', ','] := by decide
  have hnone : Text.HasNoCut (fun _ ↦ StartsCloser 1) ['a', '"', '#', '#'] := by decide
  refine ⟨hrun, hfirst, (tokenizeLine_rawQuoted hrun hfront).1 _ _ rfl hfirst, hnone, ?_⟩
  exact (tokenizeLine_rawQuoted (.refl _ _) Piece.endsClassified_nil).2 hnone

end RawString

end RonWorkbench
