import RonWorkbench.Lexeme.Value

/-!
# Every recognised lexeme takes a character

Whatever is recognised consumes at least one character (`consumed_ne_nil_of_recognise?`), which is
the measure that ends a scan. Only runs can be empty at all, so the work is in the recognisers of
words, of numbers and of text inside literals.
-/

namespace RonWorkbench.Lexeme

/-- A word has its first character. -/
theorem ne_nil_of_word? {rest w : List Char} (h : word? rest = some w) : w ≠ [] := by
  unfold word? at h
  split at h
  · simp at h
  · split at h
    · next c more hc =>
      obtain rfl := Option.some.inj h
      simp [continuesWord, hc]
    · simp at h

theorem ne_nil_of_capitalWord? {rest w : List Char} (h : capitalWord? rest = some w) :
    w ≠ [] := by
  unfold capitalWord? at h
  split at h
  · simp at h
  · split at h
    · exact ne_nil_of_word? h
    · simp at h

/-- A run of decimal digits has its first digit. -/
theorem ne_nil_of_decimalRun? {rest w : List Char} (h : decimalRun? rest = some w) : w ≠ [] := by
  unfold decimalRun? at h
  split at h
  · simp at h
  · split at h
    · next c more hc =>
      obtain rfl := Option.some.inj h
      simp [digitRun, NumberFamily.isDigit, hc]
    · simp at h

theorem ne_nil_of_magnitude? {family : NumberFamily} {rest w : List Char}
    (h : magnitude? family rest = some w) : w ≠ [] := by
  have prefixed {f : NumberFamily} (h : prefixed? f rest = some w) : w ≠ [] := by
    unfold prefixed? at h
    split at h
    · dsimp only at h
      split at h
      · obtain rfl := Option.some.inj h
        simp
      · simp at h
    · simp at h
  cases family with
  | decimal =>
    obtain ⟨whole, hw, h⟩ := Option.bind_eq_some_iff.1 h
    obtain rfl := Option.some.inj h
    simp [ne_nil_of_decimalRun? hw]
  | hex | binary | octal => exact prefixed h

theorem ne_nil_of_run? {test : Char → Bool} {rest w : List Char} (h : run? test rest = some w) :
    w ≠ [] := by
  unfold run? at h
  split at h
  · simp at h
  · next hne =>
    obtain rfl := Option.some.inj h
    exact hne

theorem consumed_ne_nil_of_numberOf? {family : NumberFamily} {rest : List Char} {x : Lexeme}
    (h : numberOf? family rest = some x) : x.consumed ≠ [] := by
  obtain ⟨digits, hd, rfl⟩ := Option.map_eq_some_iff.1 h
  simp [consumed, text, parts, ne_nil_of_magnitude? hd]

theorem consumed_ne_nil_of_named? {rest : List Char} {x : Lexeme} (h : named? rest = some x) :
    x.consumed ≠ [] := by
  simp only [named?, Option.orElse_eq_orElse, Option.orElse_eq_or, Option.or_eq_some_iff] at h
  rcases h with h | ⟨-, h | ⟨-, h | ⟨-, h | ⟨-, h | ⟨-, h⟩⟩⟩⟩⟩
  · rw [memberName?, Option.bind_eq_bind] at h
    obtain ⟨w, -, h⟩ := Option.bind_eq_some_iff.1 h
    dsimp only at h
    split at h
    · obtain rfl := Option.some.inj h
      simp [consumed, text, parts]
    · simp at h
  · unfold boolean? at h
    split at h
    · split at h
      · obtain rfl := Option.some.inj h
        simp [consumed, text, parts]
      · simp at h
    · split at h
      · obtain rfl := Option.some.inj h
        simp [consumed, text, parts]
      · simp at h
    · simp at h
  · rw [typeName?, Option.bind_eq_bind] at h
    obtain ⟨w, hw, h⟩ := Option.bind_eq_some_iff.1 h
    split at h
    · obtain rfl := Option.some.inj h
      exact ne_nil_of_capitalWord? hw
    · simp at h
  · unfold rawIdentifier? at h
    split at h
    · obtain ⟨w, hw, rfl⟩ := Option.map_eq_some_iff.1 h
      simp [consumed, text, parts, rawMark]
    · simp at h
  · obtain ⟨w, hw, rfl⟩ := Option.map_eq_some_iff.1 h
    simpa [consumed, text, parts] using ne_nil_of_capitalWord? hw
  · obtain ⟨w, hw, rfl⟩ := Option.map_eq_some_iff.1 h
    simpa [consumed, text, parts] using ne_nil_of_word? hw

/-- In a comment a mark takes two characters, and text at least one. -/
theorem consumed_ne_nil_of_insideComment? {rest : List Char} {x : Lexeme}
    (h : insideComment? rest = some x) : x.consumed ≠ [] := by
  unfold insideComment? at h
  split at h
  · obtain rfl := Option.some.inj h
    simp [consumed, text, parts]
  · obtain rfl := Option.some.inj h
    simp [consumed, text, parts]
  · simp at h
  · next c more _ _ =>
    obtain rfl := Option.some.inj h
    cases hr : run? isCommentOrdinary (c :: more) with
    | none => simp [consumed, text, parts]
    | some w => simpa [consumed, text, parts] using ne_nil_of_run? hr

/-- An escape or, failing that, a run of text. -/
theorem consumed_ne_nil_of_escape?_or {test : Char → Bool} {rest : List Char} {x : Lexeme}
    {wrap : List Char → Lexeme} (hwrap : ∀ w, w ≠ [] → (wrap w).consumed ≠ [])
    (h : (escape? rest <|> (run? test rest).map wrap) = some x) : x.consumed ≠ [] := by
  simp only [Option.orElse_eq_orElse, Option.orElse_eq_or, Option.or_eq_some_iff] at h
  rcases h with h | ⟨-, h⟩
  · unfold escape? at h
    split at h
    · obtain rfl := Option.some.inj h
      simp [consumed, text, parts]
    · simp at h
  · obtain ⟨w, hw, rfl⟩ := Option.map_eq_some_iff.1 h
    exact hwrap w (ne_nil_of_run? hw)

/-- In a string an escape takes its backslash, whatever stands behind. -/
theorem consumed_ne_nil_of_insideQuoted? {rest : List Char} {x : Lexeme}
    (h : insideQuoted? rest = some x) : x.consumed ≠ [] := by
  unfold insideQuoted? at h
  split at h
  · obtain rfl := Option.some.inj h
    simp [consumed, text, parts]
  · exact consumed_ne_nil_of_escape?_or (fun w hw ↦ by simpa [consumed, text, parts] using hw) h

theorem consumed_ne_nil_of_insideCharacter? {rest : List Char} {x : Lexeme}
    (h : insideCharacter? rest = some x) : x.consumed ≠ [] := by
  unfold insideCharacter? at h
  split at h
  · obtain rfl := Option.some.inj h
    simp [consumed, text, parts]
  · exact consumed_ne_nil_of_escape?_or (fun w hw ↦ by simpa [consumed, text, parts] using hw) h

/-- In a raw string a quote is taken, whether or not it closes. -/
theorem consumed_ne_nil_of_insideRaw? {rest : List Char} {x : Lexeme}
    (h : insideRaw? rest = some x) : x.consumed ≠ [] := by
  unfold insideRaw? at h
  split at h
  · obtain rfl := Option.some.inj h
    simp [consumed, text, parts]
  · obtain ⟨w, hw, rfl⟩ := Option.map_eq_some_iff.1 h
    simpa [consumed, text, parts] using ne_nil_of_run? hw

/-- The openers, which start with a mark of their own. -/
theorem consumed_ne_nil_of_opener? {rest : List Char} {x : Lexeme}
    (h : opener? rest = some x) : x.consumed ≠ [] := by
  simp only [opener?, Option.orElse_eq_orElse, Option.orElse_eq_or, Option.or_eq_some_iff] at h
  rcases h with h | ⟨-, h | ⟨-, h | ⟨-, h | ⟨-, h | ⟨-, h⟩⟩⟩⟩⟩
  · unfold lineComment? at h
    split at h <;> simp at h
    subst h
    simp [consumed, text, parts]
  · unfold commentOpen? at h
    split at h <;> simp at h
    subst h
    simp [consumed, text, parts]
  · unfold innerAttribute? at h
    split at h
    · dsimp only at h
      split at h <;> simp at h
      subst h
      simp [consumed, text, parts]
    · simp at h
  · unfold rawOpen? at h
    dsimp only at h
    split at h
    · split at h <;> simp at h
      subst h
      simp [consumed, text, parts]
    · simp at h
  · unfold quoteOpen? at h
    dsimp only at h
    split at h <;> simp at h
    subst h
    simp [consumed, text, parts]
  · unfold characterOpen? at h
    dsimp only at h
    split at h <;> simp at h
    subst h
    simp [consumed, text, parts]

theorem consumed_ne_nil_of_punctuation? {rest : List Char} {x : Lexeme}
    (h : punctuation? rest = some x) : x.consumed ≠ [] := by
  unfold punctuation? at h
  split at h
  · simp at h
  · obtain rfl := Option.some.inj h
    simp [consumed, text, parts]
  · obtain rfl := Option.some.inj h
    simp [consumed, text, parts]
  · simp only [Option.orElse_eq_orElse, Option.orElse_eq_or, Option.or_eq_some_iff] at h
    rcases h with h | ⟨-, h⟩ <;> obtain ⟨kind, -, rfl⟩ := Option.map_eq_some_iff.1 h <;>
      simp [consumed, text, parts]

/-- Where no literal is open, too, something is taken. -/
theorem consumed_ne_nil_of_inValue? {rest : List Char} {x : Lexeme} (h : inValue? rest = some x) :
    x.consumed ≠ [] := by
  simp only [inValue?, number?, Option.orElse_eq_orElse, Option.orElse_eq_or,
    Option.or_eq_some_iff] at h
  rcases h with h | ⟨-, h | ⟨-, h | ⟨-, h⟩⟩⟩
  · exact consumed_ne_nil_of_opener? h
  · rcases h with h | ⟨-, h | ⟨-, h | ⟨-, h⟩⟩⟩ <;> exact consumed_ne_nil_of_numberOf? h
  · exact consumed_ne_nil_of_named? h
  · exact consumed_ne_nil_of_punctuation? h

/-- Whatever is recognised takes at least one character. -/
theorem consumed_ne_nil_of_recognise? {innermost : Option Frame} {rest : List Char} {x : Lexeme}
    (h : recognise? innermost rest = some x) : x.consumed ≠ [] := by
  unfold recognise? at h
  split at h
  · exact consumed_ne_nil_of_inValue? h
  · exact consumed_ne_nil_of_inValue? h
  · exact consumed_ne_nil_of_insideComment? h
  · exact consumed_ne_nil_of_insideQuoted? h
  · exact consumed_ne_nil_of_insideRaw? h
  · exact consumed_ne_nil_of_insideCharacter? h

end RonWorkbench.Lexeme
