import RonWorkbench.Proofs.Lexeme.Reading

/-!
# Escapes

What a backslash escapes of the text behind it is one of two longer forms, or else the next
character, or else nothing (`Lexeme.Escapes`). The relation says so form by form, each by what it
looks like and where it stands; that the reading finds it, and nothing else, is
`Lexeme.escapes_iff`.

Two facts on the forms carry the theory of quoted text: no delimiter stands behind the first
character of an escape (`Lexeme.Escapes.of_mem_tail`), and its last character is a backslash only if
a backslash is all that is escaped (`Lexeme.Escapes.ends`).
-/

namespace RonWorkbench.Lexeme

/-- A `u` with one to six hexadecimal digits in braces. -/
def IsUnicodeEscape (body : List Char) : Prop :=
  ∃ digits : List Char, body = 'u' :: '{' :: (digits ++ ['}']) ∧
    (1 ≤ digits.length ∧ digits.length ≤ 6) ∧ ∀ c ∈ digits, isHexDigit c

/-- An `x` with two hexadecimal digits. -/
def IsByteEscape (body : List Char) : Prop :=
  ∃ a b : Char, body = ['x', a, b] ∧ isHexDigit a ∧ isHexDigit b

/-- What a backslash escapes, of the text behind it. -/
inductive Escapes (rest : List Char) : List Char → Prop
  /-- The first long form, if it follows. -/
  | unicode {body : List Char} (h : IsUnicodeEscape body) (hrest : body <+: rest) :
      Escapes rest body
  /-- The second long form, if it follows. -/
  | byte {body : List Char} (h : IsByteEscape body) (hrest : body <+: rest) : Escapes rest body
  /-- The next character, if neither long form follows. -/
  | character {c : Char} (hrest : [c] <+: rest) (hc : c ≠ '\n')
      (hunicode : ∀ body, IsUnicodeEscape body → ¬body <+: rest)
      (hbyte : ∀ body, IsByteEscape body → ¬body <+: rest) : Escapes rest [c]
  /-- Nothing, where there is no character or a newline. -/
  | nothing (h : ∀ c ∈ rest.head?, c = '\n') : Escapes rest []

/-! ### The forms and their readings -/

theorem unicodeEscape?_eq_some_iff {rest body : List Char} :
    unicodeEscape? rest = some body ↔ IsUnicodeEscape body ∧ body <+: rest := by
  constructor
  · intro h
    refine ⟨?_, isPrefix_of_unicodeEscape? h⟩
    unfold unicodeEscape? at h
    split at h
    · next more =>
      dsimp only at h
      split at h
      · split at h
        · next hlength =>
          obtain rfl := Option.some.inj h
          exact ⟨_, rfl, hlength, fun c hc ↦ List.mem_takeWhile_imp hc⟩
        · simp at h
      · simp at h
    · simp at h
  · rintro ⟨⟨digits, rfl, hlength, hdigits⟩, tail, rfl⟩
    have hrun : (digits ++ '}' :: tail).takeWhile isHexDigit = digits := by
      rw [List.takeWhile_append_of_pos hdigits]
      simp [isHexDigit, isDecimalDigit]
    simp [unicodeEscape?, hrun, hlength]

theorem byteEscape?_eq_some_iff {rest body : List Char} :
    byteEscape? rest = some body ↔ IsByteEscape body ∧ body <+: rest := by
  constructor
  · intro h
    refine ⟨?_, isPrefix_of_byteEscape? h⟩
    unfold byteEscape? at h
    split at h
    · split at h
      · next hdigits => exact ⟨_, _, (Option.some.inj h).symm, hdigits⟩
      · simp at h
    · simp at h
  · rintro ⟨⟨a, b, rfl, ha, hb⟩, tail, rfl⟩
    simp [byteEscape?, ha, hb]

theorem simpleEscape?_eq_some_iff {rest body : List Char} :
    simpleEscape? rest = some body ↔ ∃ c, body = [c] ∧ c ≠ '\n' ∧ [c] <+: rest := by
  cases rest with
  | nil => simp [simpleEscape?]
  | cons d rest =>
    by_cases hd : d = '\n'
    · simp [simpleEscape?, hd]
    · simp [simpleEscape?, hd, eq_comm]

/-- The two long forms begin differently. -/
theorem unicodeEscape?_eq_none {rest body : List Char} (h : IsByteEscape body)
    (hrest : body <+: rest) : unicodeEscape? rest = none := by
  obtain ⟨a, b, rfl, -⟩ := h
  obtain ⟨tail, rfl⟩ := hrest
  rfl

/-- Something is always escaped, be it nothing. -/
theorem escapes_escaped (rest : List Char) : Escapes rest (escaped rest) := by
  rw [escaped]
  -- The recogniser prefers the longer forms, as the relation does by its side conditions.
  cases hunicode : unicodeEscape? rest with
  | some body =>
    obtain ⟨hbody, hrest⟩ := unicodeEscape?_eq_some_iff.1 hunicode
    exact .unicode hbody hrest
  | none =>
    cases hbyte : byteEscape? rest with
    | some body =>
      obtain ⟨hbody, hrest⟩ := byteEscape?_eq_some_iff.1 hbyte
      exact .byte hbody hrest
    | none =>
      cases hsimple : simpleEscape? rest with
      | some body =>
        obtain ⟨c, rfl, hc, hrest⟩ := simpleEscape?_eq_some_iff.1 hsimple
        refine .character hrest hc (fun body hbody hrest ↦ ?_) (fun body hbody hrest ↦ ?_)
        · simp [unicodeEscape?_eq_some_iff.2 ⟨hbody, hrest⟩] at hunicode
        · simp [byteEscape?_eq_some_iff.2 ⟨hbody, hrest⟩] at hbyte
      | none =>
        refine .nothing fun c hc ↦ ?_
        obtain ⟨more, rfl⟩ := List.head?_eq_some_iff.1 hc
        simpa [simpleEscape?] using hsimple

/-- **The reading finds what a backslash escapes.** -/
theorem escapes_iff {rest body : List Char} : Escapes rest body ↔ body = escaped rest := by
  refine ⟨fun h ↦ ?_, fun h ↦ h ▸ escapes_escaped rest⟩
  rw [escaped]
  cases h with
  | unicode h hrest => simp [unicodeEscape?_eq_some_iff.2 ⟨h, hrest⟩]
  | byte h hrest =>
    simp [unicodeEscape?_eq_none h hrest, byteEscape?_eq_some_iff.2 ⟨h, hrest⟩]
  | character hrest hc hunicode hbyte =>
    have hnoUnicode : unicodeEscape? rest = none := by
      rw [Option.eq_none_iff_forall_not_mem]
      intro body hbody
      obtain ⟨hform, hprefix⟩ := unicodeEscape?_eq_some_iff.1 hbody
      exact hunicode body hform hprefix
    have hnoByte : byteEscape? rest = none := by
      rw [Option.eq_none_iff_forall_not_mem]
      intro body hbody
      obtain ⟨hform, hprefix⟩ := byteEscape?_eq_some_iff.1 hbody
      exact hbyte body hform hprefix
    simp [hnoUnicode, hnoByte, simpleEscape?_eq_some_iff.2 ⟨_, rfl, hc, hrest⟩]
  | nothing h =>
    cases rest with
    | nil => rfl
    | cons c rest =>
      obtain rfl : c = '\n' := h c rfl
      rfl

/-! ### What an escape is made of -/

namespace Escapes

variable {rest body : List Char}

theorem isPrefix (h : Escapes rest body) : body <+: rest := by
  rw [escapes_iff.1 h]
  exact escaped_isPrefix rest

/-- Behind its first character an escape has digits and braces only. -/
theorem of_mem_tail (h : Escapes rest body) {c : Char} (hc : c ∈ body.tail) :
    isHexDigit c ∨ c = '{' ∨ c = '}' := by
  cases h with
  | unicode h =>
    obtain ⟨digits, rfl, -, hdigits⟩ := h
    simp only [List.tail_cons, List.mem_cons, List.mem_append, List.not_mem_nil, or_false] at hc
    rcases hc with hc | hc | hc
    · exact .inr (.inl hc)
    · exact .inl (hdigits c hc)
    · exact .inr (.inr hc)
  | byte h =>
    obtain ⟨a, b, rfl, ha, hb⟩ := h
    simp only [List.tail_cons, List.mem_cons, List.not_mem_nil, or_false] at hc
    rcases hc with rfl | rfl
    · exact .inl ha
    · exact .inl hb
  | character => simp at hc
  | nothing => simp at hc

/--
An escape ends with a character other than a backslash, unless a backslash is escaped or nothing
at all.
-/
theorem ends (h : Escapes rest body) :
    (∃ front c, body = front ++ [c] ∧ c ≠ '\\') ∨ body = ['\\'] ∨
      body = [] ∧ ∀ c ∈ rest.head?, c = '\n' := by
  cases h with
  | unicode h =>
    obtain ⟨digits, rfl, -⟩ := h
    exact .inl ⟨'u' :: '{' :: digits, '}', rfl, by decide⟩
  | byte h =>
    obtain ⟨a, b, rfl, -, hb⟩ := h
    refine .inl ⟨['x', a], b, rfl, ?_⟩
    rintro rfl
    simp [isHexDigit, isDecimalDigit] at hb
  | @character c =>
    by_cases hc : c = '\\'
    · exact .inr (.inl (by rw [hc]))
    · exact .inl ⟨[], c, rfl, hc⟩
  | nothing h => exact .inr (.inr ⟨rfl, h⟩)

end Escapes

end RonWorkbench.Lexeme
