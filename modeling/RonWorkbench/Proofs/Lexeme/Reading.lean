import Mathlib.Data.List.TakeWhile
import RonWorkbench.Lexeme.Progress

/-!
# What a reading says about the text

Two facts hold of every lexeme that is recognised at a scan position (`reads_of_recognise?`), and
the theory of a scan is derived from them:

* the text of the lexeme is what the rest of the line starts with, so a step takes from the line
  just what stands there;
* the lexeme belongs to the innermost open construct: a comment knows only its two marks and text,
  a literal only its closer, escapes and text, and everything else is read where no literal is open.

A recogniser cuts the text into runs one behind the other, so the first fact is put together with
`append_isPrefix`: what starts the text, followed by what starts the remainder, starts the text.
-/

namespace RonWorkbench.Lexeme

/-- A lexeme of value position: none that is read inside a comment or a literal, no empty name. -/
def isValue : Lexeme → Bool
  | memberName name _ => !name.isEmpty
  | commentNest | commentUnnest | commentText _ | escape _ | quoteClose | quoteText _ | rawQuote _
  | rawText _ | characterClose | characterText _ => false
  | _ => true

/-- The lexeme is one of those that the innermost open construct knows. -/
def belongs : Option Frame → Lexeme → Bool
  | none, x | some (.group _), x => x.isValue
  | some (.blockComment _), commentNest | some (.blockComment _), commentUnnest
  | some (.blockComment _), commentText _ => true
  | some (.quoted _), escape _ | some (.quoted _), quoteClose
  | some (.quoted _), quoteText _ => true
  | some (.rawQuoted _ _), rawQuote _ | some (.rawQuoted _ _), rawText _ => true
  | some (.character _), escape _ | some (.character _), characterClose
  | some (.character _), characterText _ => true
  | _, _ => false

/-- The lexeme stands at the start of the text, and the innermost construct knows it. -/
structure Reads (innermost : Option Frame) (rest : List Char) (x : Lexeme) : Prop where
  text_isPrefix : x.text <+: rest
  belongs : x.belongs innermost

/-! ### Runs one behind the other -/

/-- What starts a text and what starts the remainder behind it, together start the text. -/
theorem append_isPrefix {w v rest : List Char} (hw : w <+: rest) (hv : v <+: rest.drop w.length) :
    w ++ v <+: rest := by
  rw [← List.prefix_iff_eq_append.1 hw]
  exact (List.prefix_append_right_inj w).2 hv

/-- A run and the character that stands behind it. -/
theorem append_singleton_isPrefix {w rest more : List Char} {c : Char} (hw : w <+: rest)
    (h : rest.drop w.length = c :: more) : w ++ [c] <+: rest :=
  append_isPrefix hw (h ▸ by simp)

/-! ### Words -/

/-- A word stands at the start of the text that it is read from. -/
theorem isPrefix_of_word? {rest w : List Char} (h : word? rest = some w) : w <+: rest := by
  unfold word? at h
  split at h
  · simp at h
  · split at h
    · obtain rfl := Option.some.inj h
      exact List.takeWhile_prefix _
    · simp at h

theorem isPrefix_of_capitalWord? {rest w : List Char} (h : capitalWord? rest = some w) :
    w <+: rest := by
  unfold capitalWord? at h
  split at h
  · simp at h
  · split at h
    · exact isPrefix_of_word? h
    · simp at h

theorem isPrefix_of_rawWord? {rest w : List Char} (h : rawWord? rest = some w) : w <+: rest := by
  unfold rawWord? at h
  split at h
  · obtain ⟨v, hv, rfl⟩ := Option.map_eq_some_iff.1 h
    simpa [rawMark] using isPrefix_of_word? hv
  · simp at h

/-- A name is a raw word or a word. -/
theorem name?_eq_some_iff {rest w : List Char} :
    name? rest = some w ↔ rawWord? rest = some w ∨ rawWord? rest = none ∧ word? rest = some w := by
  simp [name?, Option.or_eq_some_iff]

/-- A name stands at the start of the text, whichever kind it is of. -/
theorem isPrefix_of_name? {rest w : List Char} (h : name? rest = some w) : w <+: rest := by
  rcases name?_eq_some_iff.1 h with h | ⟨-, h⟩
  · exact isPrefix_of_rawWord? h
  · exact isPrefix_of_word? h

theorem ne_nil_of_name? {rest w : List Char} (h : name? rest = some w) : w ≠ [] := by
  rcases name?_eq_some_iff.1 h with h | ⟨-, h⟩
  · unfold rawWord? at h
    split at h
    · obtain ⟨v, -, rfl⟩ := Option.map_eq_some_iff.1 h
      simp [rawMark]
    · simp at h
  · exact ne_nil_of_word? h

/-- A member name is a name, all blanks behind it and a colon. -/
theorem memberName?_eq_some_iff {rest : List Char} {x : Lexeme} :
    memberName? rest = some x ↔
      ∃ name, name? rest = some name ∧
        ∃ more, (rest.drop name.length).drop
            ((rest.drop name.length).takeWhile Text.isBlank).length = ':' :: more ∧
          x = .memberName name ((rest.drop name.length).takeWhile Text.isBlank) := by
  rw [memberName?, Option.bind_eq_bind, Option.bind_eq_some_iff]
  refine exists_congr fun name ↦ and_congr_right fun _ ↦ ?_
  dsimp only
  constructor
  · intro h
    split at h
    · next more hdrop => exact ⟨more, hdrop, (Option.some.inj h).symm⟩
    · simp at h
  · rintro ⟨more, hdrop, rfl⟩
    simp only [hdrop]

/-- A member name is the name, the blanks behind it and the colon, one behind the other. -/
theorem reads_of_memberName? {rest : List Char} {x : Lexeme} (h : memberName? rest = some x) :
    Reads none rest x := by
  obtain ⟨name, hname, more, hdrop, rfl⟩ := memberName?_eq_some_iff.1 h
  have hgap := append_singleton_isPrefix (List.takeWhile_prefix Text.isBlank) hdrop
  have hne : name ≠ [] := ne_nil_of_name? hname
  refine ⟨?_, by simpa [belongs, isValue] using hne⟩
  simpa [text, parts] using append_isPrefix (isPrefix_of_name? hname) hgap

/-- A truth value is the word that the text starts with. -/
theorem reads_of_boolean? {rest : List Char} {x : Lexeme} (h : boolean? rest = some x) :
    Reads none rest x := by
  unfold boolean? at h
  split at h
  · split at h <;> simp at h
    subst h
    exact ⟨by simp [text, parts], rfl⟩
  · split at h <;> simp at h
    subst h
    exact ⟨by simp [text, parts], rfl⟩
  · simp at h

/-- Of a type name the parenthesis behind it is looked at, but is no part of its text. -/
theorem reads_of_typeName? {rest : List Char} {x : Lexeme} (h : typeName? rest = some x) :
    Reads none rest x := by
  rw [typeName?, Option.bind_eq_bind] at h
  obtain ⟨name, hname, h⟩ := Option.bind_eq_some_iff.1 h
  split at h
  · next more hdrop =>
    obtain rfl := Option.some.inj h
    have hname := append_singleton_isPrefix (isPrefix_of_capitalWord? hname) hdrop
    exact ⟨by simpa [text, parts] using hname, rfl⟩
  · simp at h

/-- A raw identifier is read where nothing marks it as a member or a type. -/
theorem reads_of_rawIdentifier? {rest : List Char} {x : Lexeme}
    (h : rawIdentifier? rest = some x) : Reads none rest x := by
  unfold rawIdentifier? at h
  split at h
  · obtain ⟨w, hw, rfl⟩ := Option.map_eq_some_iff.1 h
    exact ⟨by simpa [text, parts, rawMark] using isPrefix_of_word? hw, rfl⟩
  · simp at h

/-- **All that begins with a name** stands at the start of the text. -/
theorem reads_of_named? {rest : List Char} {x : Lexeme} (h : named? rest = some x) :
    Reads none rest x := by
  simp only [named?, Option.orElse_eq_orElse, Option.orElse_eq_or, Option.or_eq_some_iff] at h
  rcases h with h | ⟨-, h | ⟨-, h | ⟨-, h | ⟨-, h | ⟨-, h⟩⟩⟩⟩⟩
  · exact reads_of_memberName? h
  · exact reads_of_boolean? h
  · exact reads_of_typeName? h
  · exact reads_of_rawIdentifier? h
  · obtain ⟨w, hw, rfl⟩ := Option.map_eq_some_iff.1 h
    exact ⟨by simpa [text, parts] using isPrefix_of_capitalWord? hw, rfl⟩
  · obtain ⟨w, hw, rfl⟩ := Option.map_eq_some_iff.1 h
    exact ⟨by simpa [text, parts] using isPrefix_of_word? hw, rfl⟩

/-! ### Numbers -/

/-- A run of decimal digits is a beginning of the text. -/
theorem isPrefix_of_decimalRun? {rest w : List Char} (h : decimalRun? rest = some w) :
    w <+: rest := by
  unfold decimalRun? at h
  split at h
  · simp at h
  · split at h
    · obtain rfl := Option.some.inj h
      exact List.takeWhile_prefix _
    · simp at h

/-- The minus is part of the text if it is there, and nothing is if it is not. -/
theorem minusSign_isPrefix (rest : List Char) : minusSign rest <+: rest := by
  unfold minusSign
  split <;> simp

/-- The sign of an exponent, too, is there or is nothing. -/
theorem exponentSign_isPrefix (rest : List Char) : exponentSign rest <+: rest := by
  unfold exponentSign
  split <;> simp

/-- A fraction that is missing is the empty beginning. -/
theorem fraction_isPrefix (rest : List Char) : fraction rest <+: rest := by
  unfold fraction
  split
  · next more =>
    cases hrun : decimalRun? more with
    | none => simp
    | some w => simpa using isPrefix_of_decimalRun? hrun
  · simp

/-- An exponent is taken with its digits or not at all. -/
theorem exponent_isPrefix (rest : List Char) : exponent rest <+: rest := by
  unfold exponent
  split
  · next mark more =>
    split
    · dsimp only
      cases hrun : decimalRun? (more.drop (exponentSign more).length) with
      | none => simp
      | some w =>
        have hexp := append_isPrefix (exponentSign_isPrefix more) (isPrefix_of_decimalRun? hrun)
        simpa using hexp
    · simp
  · simp

/-- The three parts of a decimal number, each read behind the one before it. -/
theorem decimal?_eq_some_iff {rest w : List Char} :
    decimal? rest = some w ↔
      ∃ whole, decimalRun? rest = some whole ∧
        w = whole ++ fraction (rest.drop whole.length)
          ++ exponent ((rest.drop whole.length).drop
              (fraction (rest.drop whole.length)).length) := by
  rw [decimal?, Option.bind_eq_bind, Option.bind_eq_some_iff]
  exact exists_congr fun whole ↦ and_congr_right fun _ ↦
    ⟨fun h ↦ (Option.some.inj h).symm, fun h ↦ congrArg some h.symm⟩

/-- A decimal number is its digits, its fraction and its exponent, one behind the other. -/
theorem isPrefix_of_decimal? {rest w : List Char} (h : decimal? rest = some w) : w <+: rest := by
  obtain ⟨whole, hwhole, rfl⟩ := decimal?_eq_some_iff.1 h
  rw [List.append_assoc]
  refine append_isPrefix (isPrefix_of_decimalRun? hwhole) ?_
  exact append_isPrefix (fraction_isPrefix _) (exponent_isPrefix _)

/-- A number with a mark is the mark, zeros of no value, and digits of the family. -/
theorem isPrefix_of_prefixed? {family : NumberFamily} {rest w : List Char}
    (h : prefixed? family rest = some w) : w <+: rest := by
  unfold prefixed? at h
  split at h
  · dsimp only at h
    split at h
    · obtain rfl := Option.some.inj h
      simpa [digitRun] using List.takeWhile_prefix _
    · simp at h
  · simp at h

/-- The part of a number behind its minus stands at the start of the text. -/
theorem isPrefix_of_magnitude? {family : NumberFamily} {rest w : List Char}
    (h : magnitude? family rest = some w) : w <+: rest := by
  cases family with
  | decimal => exact isPrefix_of_decimal? h
  | hex | binary | octal => exact isPrefix_of_prefixed? h

/-- **A number** stands at the start of the text, with its minus. -/
theorem reads_of_numberOf? {family : NumberFamily} {rest : List Char} {x : Lexeme}
    (h : numberOf? family rest = some x) : Reads none rest x := by
  obtain ⟨digits, hdigits, rfl⟩ := Option.map_eq_some_iff.1 h
  have hnumber := append_isPrefix (minusSign_isPrefix rest) (isPrefix_of_magnitude? hdigits)
  exact ⟨by simpa [text, parts] using hnumber, rfl⟩

/-! ### Openers and punctuation -/

/-- Splitting off the mark of a byte literal loses nothing of the text. -/
theorem byteMark_append_splitByteMark (rest : List Char) :
    byteMark (splitByteMark rest).1 ++ (splitByteMark rest).2 = rest := by
  unfold splitByteMark
  split <;> simp [byteMark]

/-- What is read behind an optional byte mark is read together with the mark. -/
theorem byteMark_append_isPrefix {rest more w : List Char} (hmore : (splitByteMark rest).2 = more)
    (hw : w <+: more) : byteMark (splitByteMark rest).1 ++ w <+: rest := by
  have h := (List.prefix_append_right_inj (byteMark (splitByteMark rest).1)).2 hw
  rwa [← hmore, byteMark_append_splitByteMark] at h

@[simp]
theorem length_hashRun (n : Nat) : (hashRun n).length = n :=
  List.length_replicate

/-- A run of one character only is that character repeated. -/
theorem takeWhile_hash (rest : List Char) :
    rest.takeWhile (· == '#') = hashRun (rest.takeWhile (· == '#')).length := by
  refine List.eq_replicate_iff.2 ⟨rfl, fun c hc ↦ ?_⟩
  simpa using List.mem_takeWhile_imp hc

/-- The hashes that a text starts with can be written by their number alone. -/
theorem hashRun_isPrefix (rest : List Char) :
    hashRun (rest.takeWhile (· == '#')).length <+: rest := by
  rw [← takeWhile_hash]
  exact List.takeWhile_prefix _

/-- An attribute is read as a whole, up to its bracket. -/
theorem reads_of_innerAttribute? {rest : List Char} {x : Lexeme}
    (h : innerAttribute? rest = some x) : Reads none rest x := by
  unfold innerAttribute? at h
  split at h
  · next more =>
    dsimp only at h
    split at h
    · next tail hdrop =>
      obtain rfl := Option.some.inj h
      have hbody := append_singleton_isPrefix (List.takeWhile_prefix (· != ']')) hdrop
      exact ⟨by simpa [text, parts] using hbody, rfl⟩
    · simp at h
  · simp at h

/-- The opener of a raw string is its mark, its hashes and the quote. -/
theorem reads_of_rawOpen? {rest : List Char} {x : Lexeme} (h : rawOpen? rest = some x) :
    Reads none rest x := by
  unfold rawOpen? at h
  dsimp only at h
  split at h
  · next more hmore =>
    split at h
    · next tail hdrop =>
      obtain rfl := Option.some.inj h
      have hrun :=
        append_singleton_isPrefix (hashRun_isPrefix more) (by simpa [hashRun] using hdrop)
      have hopener := byteMark_append_isPrefix hmore (List.cons_prefix_cons.2 ⟨rfl, hrun⟩)
      exact ⟨by simpa [text, parts] using hopener, rfl⟩
    · simp at h
  · simp at h

/-- **All openers**, of comments, strings and characters, stand at the start of the text. -/
theorem reads_of_opener? {rest : List Char} {x : Lexeme} (h : opener? rest = some x) :
    Reads none rest x := by
  simp only [opener?, Option.orElse_eq_orElse, Option.orElse_eq_or, Option.or_eq_some_iff] at h
  -- In the order in which the recogniser tries them.
  rcases h with h | ⟨-, h | ⟨-, h | ⟨-, h | ⟨-, h | ⟨-, h⟩⟩⟩⟩⟩
  · unfold lineComment? at h
    split at h <;> simp at h
    subst h
    exact ⟨by simpa [text, parts] using List.takeWhile_prefix _, rfl⟩
  · unfold commentOpen? at h
    split at h <;> simp at h
    subst h
    exact ⟨by simp [text, parts], rfl⟩
  · exact reads_of_innerAttribute? h
  · exact reads_of_rawOpen? h
  · unfold quoteOpen? at h
    dsimp only at h
    split at h <;> simp at h
    next hmore =>
    subst h
    have hopener := byteMark_append_isPrefix hmore (List.prefix_append ['"'] _)
    exact ⟨by simpa [text, parts] using hopener, rfl⟩
  · unfold characterOpen? at h
    dsimp only at h
    split at h <;> simp at h
    next hmore =>
    subst h
    have hopener := byteMark_append_isPrefix hmore (List.prefix_append ['\''] _)
    exact ⟨by simpa [text, parts] using hopener, rfl⟩

/-- A comment, an attribute or the opener of a literal. -/
def isOpener : Lexeme → Bool
  | lineComment _ | commentOpen | innerAttribute _ | rawOpen _ _ | quoteOpen _
  | characterOpen _ => true
  | _ => false

/-- What the recogniser of openers recognises opens something. -/
theorem isOpener_of_opener? {rest : List Char} {x : Lexeme} (h : opener? rest = some x) :
    x.isOpener := by
  simp only [opener?, Option.orElse_eq_orElse, Option.orElse_eq_or, Option.or_eq_some_iff] at h
  rcases h with h | ⟨-, h | ⟨-, h | ⟨-, h | ⟨-, h | ⟨-, h⟩⟩⟩⟩⟩
  · unfold lineComment? at h
    split at h <;> simp at h
    exact h ▸ rfl
  · unfold commentOpen? at h
    split at h <;> simp at h
    exact h ▸ rfl
  · unfold innerAttribute? at h
    dsimp only at h
    repeat' split at h
    all_goals simp at h
    exact h ▸ rfl
  · unfold rawOpen? at h
    dsimp only at h
    repeat' split at h
    all_goals simp at h
    exact h ▸ rfl
  · unfold quoteOpen? at h
    dsimp only at h
    split at h <;> simp at h
    exact h ▸ rfl
  · unfold characterOpen? at h
    dsimp only at h
    split at h <;> simp at h
    exact h ▸ rfl

/-- An opener starts with a slash, a hash, a quote or the letter of a raw or a byte literal. -/
theorem opener?_cons_eq_none {c : Char} (hc : c ∉ ['/', '#', 'r', 'b', '"', '\''])
    (rest : List Char) : opener? (c :: rest) = none := by
  have hmark : splitByteMark (c :: rest) = (false, c :: rest) := by
    unfold splitByteMark
    split <;> simp_all
  simp only [opener?, rawOpen?, quoteOpen?, characterOpen?, hmark]
  unfold lineComment? commentOpen? innerAttribute?
  split <;> simp_all

/-- Brackets and separators are single characters of the text. -/
theorem reads_of_punctuation? {rest : List Char} {x : Lexeme} (h : punctuation? rest = some x) :
    Reads none rest x := by
  unfold punctuation? at h
  split at h
  · simp at h
  · obtain rfl := Option.some.inj h
    exact ⟨by simp [text, parts], rfl⟩
  · obtain rfl := Option.some.inj h
    exact ⟨by simp [text, parts], rfl⟩
  · simp only [Option.orElse_eq_orElse, Option.orElse_eq_or, Option.or_eq_some_iff] at h
    rcases h with h | ⟨-, h⟩
    · obtain ⟨kind, hkind, rfl⟩ := Option.map_eq_some_iff.1 h
      exact ⟨by simp [text, parts, Bracket.ofOpen?_eq_some_iff.1 hkind], rfl⟩
    · obtain ⟨kind, hkind, rfl⟩ := Option.map_eq_some_iff.1 h
      exact ⟨by simp [text, parts, Bracket.ofClose?_eq_some_iff.1 hkind], rfl⟩

/-- **What is recognised where no literal is open** stands there and belongs there. -/
theorem reads_of_inValue? {rest : List Char} {x : Lexeme} (h : inValue? rest = some x) :
    Reads none rest x := by
  simp only [inValue?, number?, Option.orElse_eq_orElse, Option.orElse_eq_or,
    Option.or_eq_some_iff] at h
  rcases h with h | ⟨-, h | ⟨-, h | ⟨-, h⟩⟩⟩
  · exact reads_of_opener? h
  · rcases h with h | ⟨-, h | ⟨-, h | ⟨-, h⟩⟩⟩ <;> exact reads_of_numberOf? h
  · exact reads_of_named? h
  · exact reads_of_punctuation? h

/-! ### Inside comments and literals -/

/-- A run of characters of one class is a beginning of the text. -/
theorem isPrefix_of_run? {test : Char → Bool} {rest w : List Char} (h : run? test rest = some w) :
    w <+: rest := by
  unfold run? at h
  split at h
  · simp at h
  · obtain rfl := Option.some.inj h
    exact List.takeWhile_prefix _

/-- A run has only characters of its class. -/
theorem test_of_mem_run? {test : Char → Bool} {rest w : List Char} (h : run? test rest = some w)
    {c : Char} (hc : c ∈ w) : test c := by
  unfold run? at h
  split at h
  · simp at h
  · obtain rfl := Option.some.inj h
    exact List.mem_takeWhile_imp hc

/-- A Unicode escape is taken with both of its braces. -/
theorem isPrefix_of_unicodeEscape? {rest w : List Char} (h : unicodeEscape? rest = some w) :
    w <+: rest := by
  unfold unicodeEscape? at h
  split at h
  · next more =>
    dsimp only at h
    split at h
    · next tail hdrop =>
      split at h
      · obtain rfl := Option.some.inj h
        simpa using append_singleton_isPrefix (List.takeWhile_prefix isHexDigit) hdrop
      · simp at h
    · simp at h
  · simp at h

/-- A byte escape is its letter and two digits. -/
theorem isPrefix_of_byteEscape? {rest w : List Char} (h : byteEscape? rest = some w) :
    w <+: rest := by
  unfold byteEscape? at h
  split at h
  · split at h <;> simp at h
    subst h
    simp
  · simp at h

/-- An escape of one letter is that letter. -/
theorem isPrefix_of_simpleEscape? {rest w : List Char} (h : simpleEscape? rest = some w) :
    w <+: rest := by
  unfold simpleEscape? at h
  split at h
  · simp at h
  · split at h <;> simp at h
    subst h
    simp

/-- The three forms of an escape, in their order, or nothing at all. -/
theorem escaped_isPrefix (rest : List Char) : escaped rest <+: rest := by
  unfold escaped
  cases h : (unicodeEscape? rest <|> byteEscape? rest <|> simpleEscape? rest) with
  | none => simp
  | some w =>
    simp only [Option.orElse_eq_orElse, Option.orElse_eq_or, Option.or_eq_some_iff] at h
    rcases h with h | ⟨-, h | ⟨-, h⟩⟩
    · exact isPrefix_of_unicodeEscape? h
    · exact isPrefix_of_byteEscape? h
    · exact isPrefix_of_simpleEscape? h

/-- The two readings inside a literal that knows escapes: an escape, or a run of text. -/
theorem eq_of_escape?_or {test : Char → Bool} {rest : List Char} {wrap : List Char → Lexeme}
    {x : Lexeme} (h : (escape? rest <|> (run? test rest).map wrap) = some x) :
    (∃ more, rest = '\\' :: more ∧ x = .escape (escaped more)) ∨
      ∃ w, run? test rest = some w ∧ x = wrap w := by
  simp only [Option.orElse_eq_orElse, Option.orElse_eq_or, Option.or_eq_some_iff] at h
  rcases h with h | ⟨-, h⟩
  · unfold escape? at h
    split at h
    · next more => exact .inl ⟨more, rfl, (Option.some.inj h).symm⟩
    · simp at h
  · obtain ⟨w, hw, rfl⟩ := Option.map_eq_some_iff.1 h
    exact .inr ⟨w, hw, rfl⟩

/-- Whatever form an escape has, and be it none, it is what the text behind the backslash starts
with. -/
theorem text_escape_isPrefix (more : List Char) :
    (escape (escaped more)).text <+: '\\' :: more := by
  simpa [text, parts] using escaped_isPrefix more

/-- **In a comment** its two marks are known and text is all the rest. -/
theorem reads_of_insideComment? {depth : UInt64} {rest : List Char} {x : Lexeme}
    (h : insideComment? rest = some x) : Reads (some (.blockComment depth)) rest x := by
  unfold insideComment? at h
  split at h
  · obtain rfl := Option.some.inj h
    exact ⟨by simp [text, parts], rfl⟩
  · obtain rfl := Option.some.inj h
    exact ⟨by simp [text, parts], rfl⟩
  · simp at h
  · next c more _ _ =>
    obtain rfl := Option.some.inj h
    refine ⟨?_, rfl⟩
    cases hrun : run? isCommentOrdinary (c :: more) with
    | none => simp [text, parts]
    | some w => simpa [text, parts] using isPrefix_of_run? hrun

/-- **In a string** the quote, escapes and text are known. -/
theorem reads_of_insideQuoted? {byte : Bool} {rest : List Char} {x : Lexeme}
    (h : insideQuoted? rest = some x) : Reads (some (.quoted byte)) rest x := by
  unfold insideQuoted? at h
  split at h
  · obtain rfl := Option.some.inj h
    exact ⟨by simp [text, parts], rfl⟩
  · rcases eq_of_escape?_or h with ⟨more, rfl, rfl⟩ | ⟨w, hw, rfl⟩
    · exact ⟨text_escape_isPrefix more, rfl⟩
    · exact ⟨by simpa [text, parts] using isPrefix_of_run? hw, rfl⟩

/-- **In a character literal** its mark, escapes and text are known. -/
theorem reads_of_insideCharacter? {byte : Bool} {rest : List Char} {x : Lexeme}
    (h : insideCharacter? rest = some x) : Reads (some (.character byte)) rest x := by
  unfold insideCharacter? at h
  split at h
  · obtain rfl := Option.some.inj h
    exact ⟨by simp [text, parts], rfl⟩
  · rcases eq_of_escape?_or h with ⟨more, rfl, rfl⟩ | ⟨w, hw, rfl⟩
    · exact ⟨text_escape_isPrefix more, rfl⟩
    · exact ⟨by simpa [text, parts] using isPrefix_of_run? hw, rfl⟩

/-- **In a raw string** there are no escapes, and a quote may be one of its text. -/
theorem reads_of_insideRaw? {hashes : Nat} {byte : Bool} {rest : List Char} {x : Lexeme}
    (h : insideRaw? rest = some x) : Reads (some (.rawQuoted hashes byte)) rest x := by
  unfold insideRaw? at h
  split at h
  · next more =>
    obtain rfl := Option.some.inj h
    exact ⟨by simpa [text, parts] using hashRun_isPrefix more, rfl⟩
  · obtain ⟨w, hw, rfl⟩ := Option.map_eq_some_iff.1 h
    exact ⟨by simpa [text, parts] using isPrefix_of_run? hw, rfl⟩

/-! ### At any scan position -/

/-- **What is recognised starts the text and belongs to the innermost construct.** -/
theorem reads_of_recognise? {innermost : Option Frame} {rest : List Char} {x : Lexeme}
    (h : recognise? innermost rest = some x) : Reads innermost rest x := by
  unfold recognise? at h
  split at h
  · exact reads_of_inValue? h
  · exact ⟨(reads_of_inValue? h).text_isPrefix, (reads_of_inValue? h).belongs⟩
  · exact reads_of_insideComment? h
  · exact reads_of_insideQuoted? h
  · exact reads_of_insideRaw? h
  · exact reads_of_insideCharacter? h

/-- What a lexeme consumes is all of its text, the parenthesis behind a type name apart. -/
theorem consumed_isPrefix_text (x : Lexeme) : x.consumed <+: x.text := by
  cases x with
  | typeName name => simp [consumed, text, parts]
  | _ => exact List.prefix_refl _

/-- What a step takes from the line is what stands at its start. -/
theorem consumed_isPrefix_of_recognise? {innermost : Option Frame} {rest : List Char} {x : Lexeme}
    (h : recognise? innermost rest = some x) : x.consumed <+: rest :=
  (consumed_isPrefix_text x).trans (reads_of_recognise? h).text_isPrefix

end RonWorkbench.Lexeme
