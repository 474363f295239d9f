import RonWorkbench.Proofs.Scan.Run
import RonWorkbench.Proofs.Text.Cut

/-!
# How far a step goes on

Inside a comment or a literal something is recognised wherever text is left
(`Lexeme.isSome_recognise?_of_isLiteral`): each character either begins a mark of the construct or
is ordinary text there, and an ordinary character begins a run. So only in value position a
character can be passed by alone.

A step goes on by just what is recognised (`byteLength_consumed_scanStep`). Two lexemes go on by the
parts that are named in them (`Lexeme.advance`): the name of a type stops in front of the
parenthesis that it is recognised by, and a member name is the sum of its three parts. What is
recognised is never empty and stands at the scan position, so the position moves, and to a character
boundary.
-/

namespace RonWorkbench

namespace Lexeme

/--
How many bytes the scan goes on at a lexeme. At the name of a type and at a member name these are
the named parts; at any other lexeme this is its whole text.
-/
def advance (x : Lexeme) : Nat :=
  match x with
  | memberName _ _ | typeName _ => (x.namedSpans.map fun span ↦ span.2 - span.1).sum
  | _ => Text.byteLength x.text

@[simp]
theorem advance_memberName (name gap : List Char) :
    (memberName name gap).advance =
      Text.byteLength name + (Text.byteLength gap + Text.byteLength [':']) := by
  simp [advance, namedSpans, parts, layoutSpans]

@[simp]
theorem advance_typeName (name : List Char) : (typeName name).advance = Text.byteLength name := by
  simp [advance, namedSpans, parts, layoutSpans]

theorem byteLength_consumed (x : Lexeme) : Text.byteLength x.consumed = x.advance := by
  cases x with
  | memberName name gap => simp [consumed, text, parts]
  | typeName name => rw [consumed, advance_typeName]
  | _ => rfl

/-! ### Inside comments and literals -/

theorem isSome_run?_cons {test : Char → Bool} {c : Char} (hc : test c) (rest : List Char) :
    (run? test (c :: rest)).isSome := by
  rw [run?, List.takeWhile_cons_of_pos hc]
  rfl

/-- Where escapes are known, a character but the closer begins an escape or a run. -/
theorem isSome_escape?_or {closer c : Char} (hc : c ≠ closer) (wrap : List Char → Lexeme)
    (rest : List Char) :
    (escape? (c :: rest) <|>
      (run? (fun d ↦ d != closer && d != '\\') (c :: rest)).map wrap).isSome := by
  by_cases hescape : c = '\\'
  · rw [hescape]
    rfl
  · have hrun : (run? (fun d ↦ d != closer && d != '\\') (c :: rest)).isSome :=
      isSome_run?_cons (by simp [hc, hescape]) rest
    simp [Option.isSome_or, hrun]

/-- **Inside a comment or a literal, text is always recognised as something.** -/
theorem isSome_recognise?_of_isLiteral {f : Frame} (hf : f.isLiteral) (c : Char)
    (rest : List Char) : (recognise? (some f) (c :: rest)).isSome := by
  -- In each literal the last class takes whatever the others leave.
  cases f with
  | group kind => simp [Frame.isLiteral] at hf
  | blockComment depth =>
    rw [recognise?, insideComment?.eq_def]
    split
    · rfl
    · rfl
    · next h => simp at h
    · rfl
  | quoted byte =>
    rw [recognise?, insideQuoted?.eq_def]
    split
    · rfl
    · next h => exact isSome_escape?_or (fun hc ↦ h rest (by rw [hc])) quoteText rest
  | rawQuoted hashes byte =>
    rw [recognise?, insideRaw?.eq_def]
    split
    · rfl
    · next h =>
      have hc : c ≠ '"' := fun hc ↦ h rest (by rw [hc])
      rw [Option.isSome_map]
      exact isSome_run?_cons (by simpa using hc) rest
  | character byte =>
    rw [recognise?, insideCharacter?.eq_def]
    split
    · rfl
    · next h => exact isSome_escape?_or (fun hc ↦ h rest (by rw [hc])) characterText rest

theorem text_ne_nil_of_recognise? {innermost : Option Frame} {rest : List Char} {x : Lexeme}
    (h : recognise? innermost rest = some x) : x.text ≠ [] := by
  intro hnil
  have hprefix := consumed_isPrefix_text x
  rw [hnil, List.prefix_nil] at hprefix
  exact consumed_ne_nil_of_recognise? h hprefix

/-- A match ends on a character boundary, as does every beginning of a text. -/
theorem exists_splitAtByte?_of_recognise? {innermost : Option Frame} {rest : List Char} {x : Lexeme}
    (h : recognise? innermost rest = some x) :
    ∃ more, Text.splitAtByte? (Text.byteLength x.text) rest = some (x.text, more) := by
  obtain ⟨more, hmore⟩ := (reads_of_recognise? h).text_isPrefix
  exact ⟨more, Text.splitAtByte?_eq_some_iff.2 ⟨hmore.symm, rfl⟩⟩

end Lexeme

/-! ### Steps -/

/-- Where nothing is recognised no comment and no literal is innermost. -/
theorem inValue_of_recognise?_eq_none {u : Stack} {c : Char} {rest : List Char}
    (h : Lexeme.recognise? u.head? (c :: rest) = none) : u.InValue := by
  intro f hf
  by_contra hliteral
  have hsome := Lexeme.isSome_recognise?_of_isLiteral (eq_true_of_ne_false hliteral) c rest
  rw [← hf, h] at hsome
  simp at hsome

/-- **A step goes on by what is recognised**, or by one character. -/
theorem byteLength_consumed_scanStep (u : Stack) (c : Char) (rest : List Char) :
    Text.byteLength (scanStep u c rest).consumed =
      (Lexeme.recognise? u.head? (c :: rest)).elim c.utf8Size Lexeme.advance := by
  rw [scanStep]
  cases Lexeme.recognise? u.head? (c :: rest) with
  | none => simp [Step.plain, Step.consumed]
  | some x => exact (congrArg Text.byteLength (x.consumed_step u)).trans x.byteLength_consumed

/--
**Comments and literals recognise all text, and a step goes on by just what is recognised.** Inside
a comment or a literal one of its own lexemes is recognised wherever text is left.

At every scan position of every line the match, if there is one, is not empty and ends on a
character boundary. Only in value position there may be none, and then one character is passed by.
The step comes to a later position, which is also a character boundary: it is as many bytes further
as the match goes on, or as the one character has.
-/
theorem scanStep_advances :
    (∀ (f : Frame) (rest : List Char), f.isLiteral → rest ≠ [] →
      ∃ x more, Lexeme.recognise? (some f) rest = some x ∧ x.belongs (some f) ∧ x.text ≠ [] ∧
        Text.splitAtByte? (Text.byteLength x.text) rest = some (x.text, more)) ∧
    ∀ {s u : Stack} {line rest : List Char} {c : Char} {done : List Piece},
      Scans s line done u (c :: rest) →
        let position := Text.byteLength (Piece.textOf done)
        let x? := Lexeme.recognise? u.head? (c :: rest)
        let next := position + x?.elim c.utf8Size Lexeme.advance
        (x? = none → u.InValue ∧ scanStep u c rest = .plain u [c]) ∧
        (∀ x, x? = some x → x.text ≠ [] ∧
          ∃ more, Text.splitAtByte? (Text.byteLength x.text) (c :: rest) = some (x.text, more)) ∧
        position < next ∧
        ∃ more,
          Scans s line (done ++ (scanStep u c rest).pieces) (scanStep u c rest).stack more ∧
          Text.splitAtByte? next line =
            some (Piece.textOf (done ++ (scanStep u c rest).pieces), more) := by
  refine ⟨fun f rest hf hrest ↦ ?_, fun {s u line rest c done} hrun ↦ ?_⟩
  · obtain ⟨c, rest, rfl⟩ := List.exists_cons_of_ne_nil hrest
    obtain ⟨x, hx⟩ := Option.isSome_iff_exists.1 (Lexeme.isSome_recognise?_of_isLiteral hf c rest)
    obtain ⟨more, hcut⟩ := Lexeme.exists_splitAtByte?_of_recognise? hx
    exact ⟨x, more, hx, (Lexeme.reads_of_recognise? hx).belongs,
      Lexeme.text_ne_nil_of_recognise? hx, hcut⟩
  · intro position x? next
    have hstep := byteLength_consumed_scanStep u c rest
    have hpos := Text.byteLength_pos (consumed_scanStep_ne_nil u c rest)
    have hnext := hrun.trans (.one u c rest)
    refine ⟨fun hnone ↦ ⟨inValue_of_recognise?_eq_none hnone, ?_⟩, fun x hx ↦ ?_, ?_, _, hnext, ?_⟩
    · rw [scanStep, show Lexeme.recognise? u.head? (c :: rest) = none from hnone]
    · exact ⟨Lexeme.text_ne_nil_of_recognise? hx, Lexeme.exists_splitAtByte?_of_recognise? hx⟩
    · exact Nat.lt_add_of_pos_right (hstep ▸ hpos)
    · refine Text.splitAtByte?_eq_some_iff.2 ⟨hnext.textOf_append.symm, ?_⟩
      rw [Piece.textOf_append, Text.byteLength_append, textOf_pieces, hstep]

/--
At the letter with an accent in `éA(` nothing is recognised, and its two bytes are passed by. The
name of a type behind it goes on by one byte, though it is recognised by two. In a string that ends
in a backslash that is an escape.
-/
theorem scanStep_advances_type_name :
    Lexeme.recognise? none ['é', 'A', '('] = none ∧
    Scans [] ['é', 'A', '('] [⟨['é'], [], none⟩] [] ['A', '('] ∧
    Lexeme.recognise? none ['A', '('] = some (.typeName ['A']) ∧
    Text.byteLength (Lexeme.typeName ['A']).text = 2 ∧
    (∃ more,
      Scans [] ['é', 'A', '('] [⟨['é'], [], none⟩, ⟨['A'], [], some .typeName⟩] [] more ∧
      Text.splitAtByte? 3 ['é', 'A', '('] = some (['é', 'A'], more)) ∧
    (Frame.quoted false).isLiteral = true ∧
    ∃ x more, Lexeme.recognise? (some (.quoted false)) ['\\'] = some x ∧
      x.belongs (some (.quoted false)) ∧ x.text ≠ [] ∧
      Text.splitAtByte? (Text.byteLength x.text) ['\\'] = some (x.text, more) := by
  obtain ⟨htotal, hadvances⟩ := scanStep_advances
  have hnone : Lexeme.recognise? none ['é', 'A', '('] = none := by decide +kernel
  have hstart : Scans [] ['é', 'A', '('] [] [] ['é', 'A', '('] := .refl _ _
  obtain ⟨-, hplain⟩ := (hadvances hstart).1 hnone
  have hfirst : Scans [] ['é', 'A', '('] [⟨['é'], [], none⟩] [] ['A', '('] :=
    scans_of_scanStep hplain rfl
  have hname : Lexeme.recognise? none ['A', '('] = some (.typeName ['A']) := by decide +kernel
  have hstep : scanStep [] 'A' ['('] = ⟨[⟨['A'], [], some .typeName⟩], []⟩ := by decide +kernel
  obtain ⟨-, -, -, more, hnext, hcut⟩ := hadvances hfirst
  rw [hstep] at hnext hcut
  have hbytes : 'é'.utf8Size + 'A'.utf8Size = 3 := by decide
  refine ⟨hnone, hfirst, hname, rfl, ⟨more, hnext, ?_⟩, rfl, htotal _ _ rfl (by simp)⟩
  rw [← hbytes]
  simpa [hname] using hcut

end RonWorkbench
