import RonWorkbench.Proofs.Lexeme.Reading

/-!
# Texts without brackets

In value position a bracket is read as a lexeme of its own: no name, no number and no separator has
one in its text (`Lexeme.free_of_inValue?`), and where nothing is recognised the character is not a
bracket (`Lexeme.isMark_of_inValue?_eq_none`). Line comments and attributes are the exceptions,
and the parenthesis that makes a type name is looked at and left in the line.

Names and numbers are put together from runs, so it comes down to the classes of characters of
which the runs are made, none of which has a bracket.
-/

namespace RonWorkbench

namespace Bracket

/-- The character opens or closes a group. -/
def isMark (c : Char) : Bool :=
  (ofOpen? c).isSome || (ofClose? c).isSome

/-- A text without brackets. -/
def Free (text : List Char) : Prop :=
  ∀ c ∈ text, isMark c = false

instance (text : List Char) : Decidable (Free text) :=
  List.decidableBAll (fun c ↦ isMark c = false) text

/-- A class of characters that has no bracket. -/
def Excluded (test : Char → Bool) : Prop :=
  ∀ kind : Bracket, test kind.opener = false ∧ test kind.closer = false

/-- The marks are the opener and the closer of each kind of bracket. -/
theorem isMark_iff {c : Char} : isMark c ↔ ∃ kind : Bracket, c = kind.opener ∨ c = kind.closer := by
  rw [isMark, Bool.or_eq_true, Option.isSome_iff_exists, Option.isSome_iff_exists]
  simp only [ofOpen?_eq_some_iff, ofClose?_eq_some_iff, exists_or]

theorem isMark_opener (kind : Bracket) : isMark kind.opener := by
  cases kind <;> rfl

theorem isMark_closer (kind : Bracket) : isMark kind.closer := by
  cases kind <;> rfl

/-- No character of a class without brackets is a bracket. -/
theorem isMark_eq_false_of_test {test : Char → Bool} (h : Excluded test) {c : Char}
    (hc : test c) : isMark c = false := by
  rw [Bool.eq_false_iff, Ne, isMark_iff]
  rintro ⟨kind, rfl | rfl⟩
  · simp [(h kind).1] at hc
  · simp [(h kind).2] at hc

theorem free_nil : Free [] := by
  simp [Free]

/-- A text is free of brackets if its first character is none and the others are not. -/
theorem free_cons {c : Char} {text : List Char} :
    Free (c :: text) ↔ isMark c = false ∧ Free text :=
  List.forall_mem_cons

theorem free_append {a b : List Char} : Free (a ++ b) ↔ Free a ∧ Free b :=
  List.forall_mem_append

/-- A run of a class without brackets has none, wherever it ends. -/
theorem free_takeWhile {test : Char → Bool} (h : Excluded test) (text : List Char) :
    Free (text.takeWhile test) :=
  fun _ hc ↦ isMark_eq_false_of_test h (List.mem_takeWhile_imp hc)

theorem excluded_continuesWord : Excluded Lexeme.continuesWord := by
  rintro (_ | _ | _) <;> decide

theorem excluded_isBlank : Excluded Text.isBlank := by
  rintro (_ | _ | _) <;> decide

/-- No bracket is a digit of any family, nor what stands between digits. -/
theorem excluded_digit (family : NumberFamily) :
    Excluded fun c ↦ family.isDigit c || c == '_' := by
  rintro (_ | _ | _) <;> cases family <;> decide

end Bracket

namespace Lexeme

open RonWorkbench.Bracket

variable {rest w : List Char}

/-! ### Names -/

theorem free_of_word? (h : word? rest = some w) : Free w := by
  unfold word? at h
  split at h
  · simp at h
  · split at h
    · obtain rfl := Option.some.inj h
      exact free_takeWhile excluded_continuesWord _
    · simp at h

theorem free_of_capitalWord? (h : capitalWord? rest = some w) : Free w := by
  unfold capitalWord? at h
  split at h
  · simp at h
  · split at h
    · exact free_of_word? h
    · simp at h

theorem free_rawMark_append (h : Free w) : Free (rawMark ++ w) :=
  free_append.2 ⟨by simp [Free, rawMark, isMark, ofOpen?, ofClose?], h⟩

/-- **A name has no bracket**, raw or not. -/
theorem free_of_name? (h : name? rest = some w) : Free w := by
  rcases name?_eq_some_iff.1 h with h | ⟨-, h⟩
  · unfold rawWord? at h
    split at h
    · obtain ⟨v, hv, rfl⟩ := Option.map_eq_some_iff.1 h
      exact free_rawMark_append (free_of_word? hv)
    · simp at h
  · exact free_of_word? h

/-! ### Numbers -/

/-- Decimal digits have no bracket among them. -/
theorem free_of_decimalRun? (h : decimalRun? rest = some w) : Free w := by
  unfold decimalRun? at h
  split at h
  · simp at h
  · split at h
    · obtain rfl := Option.some.inj h
      exact free_takeWhile (excluded_digit .decimal) _
    · simp at h

theorem free_minusSign (rest : List Char) : Free (minusSign rest) := by
  unfold minusSign
  split <;> decide

theorem free_fraction (rest : List Char) : Free (fraction rest) := by
  unfold fraction
  split
  · next more =>
    cases hrun : decimalRun? more with
    | none => exact free_nil
    | some v => exact free_cons.2 ⟨rfl, free_of_decimalRun? hrun⟩
  · exact free_nil

theorem free_exponent (rest : List Char) : Free (exponent rest) := by
  unfold exponent
  split
  · next mark more =>
    split
    · next hmark =>
      dsimp only
      cases hrun : decimalRun? (more.drop (exponentSign more).length) with
      | none => exact free_nil
      | some v =>
        have hsign : Free (exponentSign more) := by
          unfold exponentSign
          split <;> decide
        have hfree : isMark mark = false := by
          rcases hmark with rfl | rfl <;> rfl
        exact free_cons.2 ⟨hfree, free_append.2 ⟨hsign, free_of_decimalRun? hrun⟩⟩
    · exact free_nil
  · exact free_nil

/-- The mark of a family and its digits have no bracket. -/
theorem free_of_prefixed? {family : NumberFamily} (h : prefixed? family rest = some w) :
    Free w := by
  unfold prefixed? at h
  split at h
  · next letter more =>
    dsimp only at h
    split at h
    · next hletter =>
      obtain rfl := Option.some.inj h
      have hfree : isMark letter = false := by
        cases family <;> simp [NumberFamily.letter?] at hletter <;> rw [← hletter.1] <;> rfl
      exact free_cons.2 ⟨rfl, free_cons.2 ⟨hfree, free_takeWhile (excluded_digit family) more⟩⟩
    · simp at h
  · simp at h

/-- A number behind its minus has no bracket. -/
theorem free_of_magnitude? {family : NumberFamily} (h : magnitude? family rest = some w) :
    Free w := by
  cases family with
  | decimal =>
    obtain ⟨whole, hwhole, rfl⟩ := decimal?_eq_some_iff.1 h
    exact free_append.2 ⟨free_append.2 ⟨free_of_decimalRun? hwhole, free_fraction _⟩,
      free_exponent _⟩
  | hex | binary | octal => exact free_of_prefixed? h

/-! ### Value position -/

variable {x : Lexeme}

/-- The lexemes of value position that can have brackets in their texts. -/
def bearsBracket : Lexeme → Bool
  | lineComment _ | innerAttribute _ | groupOpen _ | groupClose _ => true
  | _ => false

/-- The opener of a raw string has no bracket, however many hashes it has. -/
theorem free_rawOpen (byte : Bool) (hashes : Nat) : Free (rawOpen byte hashes).consumed := by
  have hrun : Free (hashRun hashes) := fun c hc ↦ by
    rw [List.eq_of_mem_replicate hc]
    rfl
  have hmark : Free (byteMark byte) := by cases byte <;> decide
  simpa [consumed, text, parts, free_append, free_cons] using ⟨hmark, rfl, hrun, rfl, free_nil⟩

/-- **An opener has no bracket** unless it is a line comment or an attribute. -/
theorem free_of_opener? (h : opener? rest = some x) (hx : x.bearsBracket = false) :
    Free x.consumed := by
  simp only [opener?, Option.orElse_eq_orElse, Option.orElse_eq_or, Option.or_eq_some_iff] at h
  -- Of the six openers the line comment and the attribute take text with them, the others only
  -- marks.
  rcases h with h | ⟨-, h | ⟨-, h | ⟨-, h | ⟨-, h | ⟨-, h⟩⟩⟩⟩⟩
  · unfold lineComment? at h
    split at h <;> simp at h
    subst h
    simp [bearsBracket] at hx
  · unfold commentOpen? at h
    split at h <;> simp at h
    subst h
    decide
  · unfold innerAttribute? at h
    split at h
    · dsimp only at h
      split at h <;> simp at h
      subst h
      simp [bearsBracket] at hx
    · simp at h
  · unfold rawOpen? at h
    dsimp only at h
    split at h
    · split at h <;> simp at h
      subst h
      exact free_rawOpen _ _
    · simp at h
  · unfold quoteOpen? at h
    dsimp only at h
    split at h <;> simp at h
    subst h
    cases (splitByteMark rest).1 <;> decide
  · unfold characterOpen? at h
    dsimp only at h
    split at h <;> simp at h
    subst h
    cases (splitByteMark rest).1 <;> decide

/-- **A number has no bracket.** -/
theorem free_of_number? (h : number? rest = some x) : Free x.consumed := by
  have hof {family : NumberFamily} (h : numberOf? family rest = some x) : Free x.consumed := by
    obtain ⟨digits, hdigits, rfl⟩ := Option.map_eq_some_iff.1 h
    simpa [consumed, text, parts] using
      free_append.2 ⟨free_minusSign rest, free_of_magnitude? hdigits⟩
  simp only [number?, Option.orElse_eq_orElse, Option.orElse_eq_or, Option.or_eq_some_iff] at h
  rcases h with h | ⟨-, h | ⟨-, h | ⟨-, h⟩⟩⟩ <;> exact hof h

/-- **What begins with a name has no bracket**; the parenthesis that makes a type name is left in
the line. -/
theorem free_of_named? (h : named? rest = some x) : Free x.consumed := by
  simp only [named?, Option.orElse_eq_orElse, Option.orElse_eq_or, Option.or_eq_some_iff] at h
  -- In the order in which the recogniser tries them.
  rcases h with h | ⟨-, h | ⟨-, h | ⟨-, h | ⟨-, h | ⟨-, h⟩⟩⟩⟩⟩
  · obtain ⟨name, hname, more, -, rfl⟩ := memberName?_eq_some_iff.1 h
    have hgap := free_takeWhile excluded_isBlank (rest.drop name.length)
    have hcolon : Free [':'] := by decide
    simpa [consumed, text, parts, free_append] using ⟨free_of_name? hname, hgap, hcolon⟩
  · unfold boolean? at h
    split at h
    · split at h <;> simp at h
      subst h
      decide
    · split at h <;> simp at h
      subst h
      decide
    · simp at h
  · rw [typeName?, Option.bind_eq_bind] at h
    obtain ⟨name, hname, h⟩ := Option.bind_eq_some_iff.1 h
    split at h <;> simp at h
    subst h
    exact free_of_capitalWord? hname
  · unfold rawIdentifier? at h
    split at h
    · obtain ⟨v, hv, rfl⟩ := Option.map_eq_some_iff.1 h
      simpa [consumed, text, parts] using free_rawMark_append (free_of_word? hv)
    · simp at h
  · obtain ⟨v, hv, rfl⟩ := Option.map_eq_some_iff.1 h
    simpa [consumed, text, parts] using free_of_capitalWord? hv
  · obtain ⟨v, hv, rfl⟩ := Option.map_eq_some_iff.1 h
    simpa [consumed, text, parts] using free_of_word? hv

theorem free_of_punctuation? (h : punctuation? rest = some x) (hx : x.bearsBracket = false) :
    Free x.consumed := by
  unfold punctuation? at h
  split at h
  · simp at h
  · obtain rfl := Option.some.inj h
    decide
  · obtain rfl := Option.some.inj h
    decide
  · simp only [Option.orElse_eq_orElse, Option.orElse_eq_or, Option.or_eq_some_iff] at h
    rcases h with h | ⟨-, h⟩
    · obtain ⟨kind, -, rfl⟩ := Option.map_eq_some_iff.1 h
      simp [bearsBracket] at hx
    · obtain ⟨kind, -, rfl⟩ := Option.map_eq_some_iff.1 h
      simp [bearsBracket] at hx

/-- **Brackets are in comments, in attributes or lexemes of their own.** -/
theorem free_of_inValue? (h : inValue? rest = some x) (hx : x.bearsBracket = false) :
    Free x.consumed := by
  simp only [inValue?, Option.orElse_eq_orElse, Option.orElse_eq_or, Option.or_eq_some_iff] at h
  rcases h with h | ⟨-, h | ⟨-, h | ⟨-, h⟩⟩⟩
  · exact free_of_opener? h hx
  · exact free_of_number? h
  · exact free_of_named? h
  · exact free_of_punctuation? h hx

/-- **A bracket is recognised in value position.** -/
theorem isMark_of_inValue?_eq_none {c : Char} (h : inValue? (c :: rest) = none) :
    isMark c = false := by
  rw [Bool.eq_false_iff, Ne, isMark_iff]
  rintro ⟨kind, hc⟩
  have hsome : punctuation? (c :: rest) ≠ none := by
    rcases hc with rfl | rfl <;> cases kind <;>
      simp [punctuation?, opener, closer, ofOpen?, ofClose?]
  simp only [inValue?, Option.orElse_eq_orElse, Option.orElse_eq_or, Option.or_eq_none_iff] at h
  exact hsome h.2.2.2

end Lexeme

end RonWorkbench
