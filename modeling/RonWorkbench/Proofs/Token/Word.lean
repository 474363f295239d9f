import RonWorkbench.Proofs.Token.Number

/-!
# Tokens of names

A word at a scan position is told by what stands behind it. The letters of byte and raw literals
come first, where the text completes the opener (`Word.Opens`). All other words are names, with the
raw mark or without it (`Word.IsName`), and `Word.IsClassed` says of each what it is, one case for
each of the six kinds.

The recognisers of names are tried one after another, and each looks at the text anew. That they
keep to the cases is shown from the other side: whatever the cases allow is what is read
(`Word.inValue?_eq_some`), and they allow something for every word (`Word.exists_reads`). So the
cases exclude one another, and what is read is what they say (`Word.tokenizeLine_words`).
-/

namespace RonWorkbench

namespace Word

/-! ### What a word is -/

/-- A word of ASCII letters, digits and underscores, and the text behind it, in which it does not
go on. -/
structure IsWord (w after : List Char) : Prop where
  starts : ∃ c ∈ w.head?, Lexeme.startsWord c
  continues : ∀ c ∈ w, Lexeme.continuesWord c
  ends : ∀ c ∈ after.head?, Lexeme.continuesWord c = false

/-- The word is the letters of an opener, and the text behind it completes the opener. -/
inductive Opens : List Char → List Char → Frame → Prop
  | byteString (more : List Char) : Opens ['b'] ('"' :: more) (.quoted true)
  | byteCharacter (more : List Char) : Opens ['b'] ('\'' :: more) (.character true)
  | rawString (byte : Bool) (hashes : Nat) (more : List Char) :
      Opens (Lexeme.byteMark byte ++ ['r']) (Lexeme.hashRun hashes ++ '"' :: more)
        (.rawQuoted hashes byte)

/-- The word of a name at the start of the text, and the text behind the name; the name is raw if
the first word is the letter of the raw mark, a hash follows and a word starts behind it. -/
inductive IsName (w after : List Char) : Bool → List Char → List Char → Prop
  | raw {word behind : List Char} (hw : w = ['r']) (hafter : after = '#' :: (word ++ behind))
      (hword : IsWord word behind) : IsName w after true word behind
  | plain (hraw : ∀ c more, w = ['r'] → after = '#' :: c :: more → Lexeme.startsWord c = false) :
      IsName w after false w after

/-- A name, with the raw mark if it is raw. -/
def nameText (raw : Bool) (word : List Char) : List Char :=
  (if raw then Lexeme.rawMark else []) ++ word

/-- The words of the truth values. -/
def truth : Bool → List Char
  | true => ['t', 'r', 'u', 'e']
  | false => ['f', 'a', 'l', 's', 'e']

/-- No word character follows, of ASCII or not. -/
def EndsWord (behind : List Char) : Prop :=
  ∀ c ∈ behind.head?, Text.isWord c = false

/-- Blanks, if any, and a colon. -/
def ColonFollows (behind : List Char) : Prop :=
  ∃ gap more, (∀ c ∈ gap, Text.isBlank c) ∧ behind = gap ++ ':' :: more

/-- The word starts with a capital letter. -/
def IsCapitalised (word : List Char) : Prop :=
  ∃ c ∈ word.head?, Lexeme.isLetter.isCapital c

/-- What a name is, by the text behind it. -/
inductive IsClassed (raw : Bool) (word behind : List Char) : Lexeme → Prop
  /-- Blanks, if any, and a colon follow. -/
  | memberName {gap more : List Char} (hgap : ∀ c ∈ gap, Text.isBlank c)
      (hbehind : behind = gap ++ ':' :: more) :
      IsClassed raw word behind (.memberName (nameText raw word) gap)
  /-- Any other raw name. -/
  | rawIdentifier (hcolon : ¬ColonFollows behind) (hraw : raw = true) :
      IsClassed raw word behind (.rawIdentifier word)
  /-- The word of a truth value that no word character follows. -/
  | boolean {value : Bool} (hcolon : ¬ColonFollows behind) (hraw : raw = false)
      (hword : word = truth value) (hends : EndsWord behind) :
      IsClassed raw word behind (.boolean value)
  /-- A capitalised name with an opening parenthesis right behind it. -/
  | typeName (hcolon : ¬ColonFollows behind) (hraw : raw = false) (hcapital : IsCapitalised word)
      (hparen : behind.head? = some '(') : IsClassed raw word behind (.typeName word)
  /-- Any other capitalised name. -/
  | variantName (hcolon : ¬ColonFollows behind) (hraw : raw = false) (hcapital : IsCapitalised word)
      (hparen : behind.head? ≠ some '(') : IsClassed raw word behind (.variantName word)
  /-- Any other name. -/
  | identifier (hcolon : ¬ColonFollows behind) (hraw : raw = false)
      (hboolean : ∀ value, word = truth value → ¬EndsWord behind)
      (hcapital : ¬IsCapitalised word) : IsClassed raw word behind (.identifier word)

/-- What is read at a word: an opener if the text completes one, and what its name is otherwise. -/
inductive Reads (w after : List Char) : Lexeme → Prop
  | opener {f : Frame} (hopens : Opens w after f) : Reads w after (Lexeme.ofOpening f)
  | name {raw : Bool} {word behind : List Char} {x : Lexeme} (hopens : ∀ f, ¬Opens w after f)
      (hname : IsName w after raw word behind) (hclassed : IsClassed raw word behind x) :
      Reads w after x

/-- The leaf scope of a name. -/
def nameScope : Lexeme → Scope
  | .memberName _ _ => .memberName
  | .boolean _ => .constant
  | .typeName _ => .typeName
  | .variantName _ => .variantName
  | _ => .identifier

/-! ### Words and their characters -/

theorem continuesWord_of_startsWord {c : Char} (h : Lexeme.startsWord c) :
    Lexeme.continuesWord c := by
  simp [Lexeme.continuesWord, h]

theorem isDecimalDigit_of_startsWord {c : Char} (h : Lexeme.startsWord c) :
    Lexeme.isDecimalDigit c = false := by
  rw [← Bool.not_eq_true]
  intro hdigit
  simp only [Lexeme.isDecimalDigit, Lexeme.startsWord, Lexeme.isLetter,
    Lexeme.isLetter.isCapital, Bool.or_eq_true, decide_eq_true_eq, beq_iff_eq] at hdigit h
  rcases h with (h | h) | rfl
  · exact absurd (Char.le_trans h.1 hdigit.2) (by decide)
  · exact absurd (Char.le_trans h.1 hdigit.2) (by decide)
  · exact absurd hdigit.2 (by decide)

/-- The characters of a word are word characters. -/
theorem isWord_of_continuesWord {c : Char} (h : Lexeme.continuesWord c) : Text.isWord c := by
  have hrange {low high : Char} (hmem : (low.toNat, high.toNat) ∈ Text.wordRanges)
      (hc : low ≤ c ∧ c ≤ high) : Text.isWord c :=
    Text.isWord_of_mem hmem (UInt32.le_iff_toNat_le.1 hc.1) (UInt32.le_iff_toNat_le.1 hc.2)
  simp only [Lexeme.continuesWord, Lexeme.startsWord, Lexeme.isLetter, Lexeme.isLetter.isCapital,
    Bool.or_eq_true, decide_eq_true_eq, beq_iff_eq] at h
  rcases h with ((h | h) | rfl) | h
  · exact hrange (by decide) h
  · exact hrange (by decide) h
  · exact Text.isWord_of_ascii (.inr rfl)
  · exact hrange (by decide) h

namespace IsWord

variable {w after : List Char} (h : IsWord w after)
include h

theorem exists_cons : ∃ c more, w = c :: more ∧ Lexeme.startsWord c := by
  obtain ⟨c, hc, hstarts⟩ := h.starts
  obtain ⟨more, rfl⟩ := List.head?_eq_some_iff.1 hc
  exact ⟨c, more, rfl, hstarts⟩

/-- A word is as long as its characters go on. -/
theorem takeWhile_append : (w ++ after).takeWhile Lexeme.continuesWord = w := by
  rw [List.takeWhile_append_of_pos h.continues]
  cases after with
  | nil => exact List.append_nil w
  | cons c after => rw [List.takeWhile_cons_of_neg (by simp [h.ends c rfl]), List.append_nil]

/-- A text starts with one word only. -/
theorem unique {v behind : List Char} (hv : IsWord v behind) (heq : w ++ after = v ++ behind) :
    w = v ∧ after = behind := by
  have hw := h.takeWhile_append
  rw [heq, hv.takeWhile_append] at hw
  subst hw
  exact ⟨rfl, List.append_cancel_left heq⟩

theorem word?_eq : Lexeme.word? (w ++ after) = some w := by
  obtain ⟨c, more, rfl, hc⟩ := h.exists_cons
  have htake := h.takeWhile_append
  rw [List.cons_append] at htake
  simp [Lexeme.word?, hc, htake]

theorem capitalWord?_eq (hcapital : IsCapitalised w) :
    Lexeme.capitalWord? (w ++ after) = some w := by
  have hword := h.word?_eq
  obtain ⟨c, hc, hcapital⟩ := hcapital
  obtain ⟨more, rfl⟩ := List.head?_eq_some_iff.1 hc
  simpa [Lexeme.capitalWord?, hcapital] using hword

theorem capitalWord?_eq_none (hcapital : ¬IsCapitalised w) :
    Lexeme.capitalWord? (w ++ after) = none := by
  obtain ⟨c, more, rfl, -⟩ := h.exists_cons
  have hc : Lexeme.isLetter.isCapital c = false := by
    simpa [IsCapitalised] using hcapital
  simp [Lexeme.capitalWord?, hc]

end IsWord

theorem isWord_truth (value : Bool) {more : List Char} (hmore : EndsWord more) :
    IsWord (truth value) more where
  starts := by cases value <;> exact ⟨_, rfl, by decide⟩
  continues := by cases value <;> exact List.all_eq_true.1 rfl
  ends c hc := by
    by_contra h
    have hword := isWord_of_continuesWord (Bool.eq_true_of_not_eq_false h)
    simp [hmore c hc] at hword

theorem endsWord_iff {behind : List Char} : Lexeme.endsWord behind ↔ EndsWord behind := by
  cases behind <;> simp [Lexeme.endsWord, EndsWord]

/-! ### Openers -/

section Openers

variable {w after : List Char}

theorem Opens.exists_append {f : Frame} (h : Opens w after f) :
    ∃ more, w ++ after = f.opening ++ more := by
  cases h with
  | byteString more => exact ⟨more, rfl⟩
  | byteCharacter more => exact ⟨more, rfl⟩
  | rawString byte hashes more => exact ⟨more, by simp [Frame.opening]⟩

/-- Letters at the start of a text are its word, if what follows them goes on no word. -/
theorem IsWord.of_append_isPrefix (hw : IsWord w after) (letters mark : List Char)
    (hstarts : ∃ c ∈ letters.head?, Lexeme.startsWord c)
    (hcontinues : ∀ c ∈ letters, Lexeme.continuesWord c)
    (hmark : ∃ c ∈ mark.head?, Lexeme.continuesWord c = false)
    (hpre : letters ++ mark <+: w ++ after) : ∃ more, w = letters ∧ after = mark ++ more := by
  obtain ⟨more, hmore⟩ := hpre
  obtain ⟨c, hc, hends⟩ := hmark
  obtain ⟨others, rfl⟩ := List.head?_eq_some_iff.1 hc
  have hword : IsWord letters (c :: others ++ more) := ⟨hstarts, hcontinues, by simpa using hends⟩
  exact ⟨more, hw.unique hword (by rw [← hmore, List.append_assoc])⟩

/-- Where a word stands, no opener is read but one that the word begins. -/
theorem opener?_eq_none (hw : IsWord w after) (hopens : ∀ f, ¬Opens w after f) :
    Lexeme.opener? (w ++ after) = none := by
  rw [← Option.not_isSome_iff_eq_none, Option.isSome_iff_exists]
  rintro ⟨x, hx⟩
  have hpre := (Lexeme.reads_of_opener? hx).text_isPrefix
  have hkind := Lexeme.isOpener_of_opener? hx
  -- An opener of another first character is none that a word can start with.
  have hfirst {c : Char} {more : List Char} (hc : Lexeme.startsWord c = false)
      (htext : x.text = c :: more) : False := by
    obtain ⟨d, others, rfl, hd⟩ := hw.exists_cons
    rw [htext] at hpre
    obtain rfl := (List.cons_prefix_cons.1 hpre).1
    simp [hc] at hd
  cases x with
  | lineComment body => exact hfirst (c := '/') rfl rfl
  | commentOpen => exact hfirst (c := '/') rfl rfl
  | innerAttribute body => exact hfirst (c := '#') rfl rfl
  | rawOpen byte hashes =>
    -- The letters in front of the quote would be the word, which then opens a literal.
    have hpre : (Lexeme.byteMark byte ++ ['r']) ++ (Lexeme.hashRun hashes ++ ['"']) <+:
        w ++ after := by
      simpa [Lexeme.text, Lexeme.parts] using hpre
    obtain ⟨more, rfl, rfl⟩ := hw.of_append_isPrefix _ _
      (by cases byte <;> exact ⟨_, rfl, rfl⟩) (by cases byte <;> exact List.all_eq_true.1 rfl)
      (by cases hashes <;> exact ⟨_, rfl, rfl⟩) hpre
    exact hopens _ (by simpa using Opens.rawString byte hashes more)
  | quoteOpen byte =>
    cases byte with
    | false => exact hfirst (c := '"') rfl rfl
    | true =>
      obtain ⟨more, rfl, rfl⟩ := hw.of_append_isPrefix ['b'] ['"'] ⟨_, rfl, rfl⟩
        (List.all_eq_true.1 rfl) ⟨_, rfl, rfl⟩ hpre
      exact hopens _ (.byteString more)
  | characterOpen byte =>
    cases byte with
    | false => exact hfirst (c := '\'') rfl rfl
    | true =>
      obtain ⟨more, rfl, rfl⟩ := hw.of_append_isPrefix ['b'] ['\''] ⟨_, rfl, rfl⟩
        (List.all_eq_true.1 rfl) ⟨_, rfl, rfl⟩ hpre
      exact hopens _ (.byteCharacter more)
  | _ => simp [Lexeme.isOpener] at hkind

end Openers

/-! ### Names -/

/-- A word starts with no digit and no minus. -/
theorem number?_eq_none {w after : List Char} (hw : IsWord w after) :
    Lexeme.number? (w ++ after) = none := by
  rw [← Option.not_isSome_iff_eq_none, Number.isSome_number?_iff]
  obtain ⟨c, more, rfl, hc⟩ := hw.exists_cons
  rintro ⟨digit, others, hdigit, h | h⟩
  · obtain ⟨rfl, -⟩ := List.cons.inj h
    simp [isDecimalDigit_of_startsWord hc] at hdigit
  · obtain ⟨rfl, -⟩ := List.cons.inj h
    simp [Lexeme.startsWord, Lexeme.isLetter, Lexeme.isLetter.isCapital] at hc

section Names

variable {w after word behind : List Char} {raw : Bool} (hw : IsWord w after)
  (hname : IsName w after raw word behind)
include hw hname

/-- A name and what stands behind it make up the text. -/
theorem IsName.append_eq : w ++ after = nameText raw word ++ behind := by
  cases hname with
  | raw hw hafter =>
    subst hw hafter
    simp [nameText, Lexeme.rawMark]
  | plain => rfl

/-- A name is raw just where a word stands behind the raw mark. -/
theorem IsName.raw_or_plain :
    (raw = true ∧ ∃ more, w ++ after = 'r' :: '#' :: more ∧ Lexeme.word? more = some word) ∨
      raw = false ∧ ∀ more, w ++ after = 'r' :: '#' :: more → Lexeme.word? more = none := by
  cases hname with
  | raw hr hafter hword =>
    subst hr hafter
    exact .inl ⟨rfl, _, rfl, hword.word?_eq⟩
  | plain hraw =>
    refine .inr ⟨rfl, fun more heq ↦ ?_⟩
    have hletter : IsWord ['r'] ('#' :: more) :=
      ⟨⟨'r', rfl, rfl⟩, List.all_eq_true.1 rfl, by rintro c ⟨⟩; decide⟩
    obtain ⟨hr, hafter⟩ := hw.unique hletter heq
    cases more with
    | nil => rfl
    | cons c more => simp [Lexeme.word?, hraw c more hr hafter]

/-- A raw word is taken with its mark, and a plain one is not taken for it. -/
theorem IsName.rawWord?_eq :
    Lexeme.rawWord? (w ++ after) = if raw then some (nameText raw word) else none := by
  rcases hname.raw_or_plain hw with ⟨rfl, more, heq, hword⟩ | ⟨rfl, hnone⟩
  · simp [heq, Lexeme.rawWord?, hword, nameText]
  · unfold Lexeme.rawWord?
    split
    · next more heq => simp [hnone more heq]
    · rfl

/-- A raw name is an identifier where nothing else claims it. -/
theorem IsName.rawIdentifier?_eq :
    Lexeme.rawIdentifier? (w ++ after) = if raw then some (.rawIdentifier word) else none := by
  rcases hname.raw_or_plain hw with ⟨rfl, more, heq, hword⟩ | ⟨rfl, hnone⟩
  · simp [heq, Lexeme.rawIdentifier?, hword]
  · unfold Lexeme.rawIdentifier?
    split
    · next more heq => simp [hnone more heq]
    · rfl

theorem IsName.name?_eq : Lexeme.name? (w ++ after) = some (nameText raw word) := by
  rw [Lexeme.name?_eq_some_iff, hname.rawWord?_eq hw]
  cases hname with
  | raw => exact .inl rfl
  | plain => exact .inr ⟨rfl, hw.word?_eq⟩

theorem IsName.drop_append : (w ++ after).drop (nameText raw word).length = behind := by
  rw [hname.append_eq hw, List.drop_left]

/-- A name with a colon behind it, blanks between them or not, names a member. -/
theorem IsName.memberName?_eq {gap more : List Char} (hgap : ∀ c ∈ gap, Text.isBlank c)
    (hbehind : behind = gap ++ ':' :: more) :
    Lexeme.memberName? (w ++ after) = some (.memberName (nameText raw word) gap) := by
  have hcolon : Text.isBlank ':' = false := by decide
  have htake : behind.takeWhile Text.isBlank = gap := by
    rw [hbehind, List.takeWhile_append_of_pos hgap, List.takeWhile_cons_of_neg (by simp [hcolon]),
      List.append_nil]
  refine Lexeme.memberName?_eq_some_iff.2 ⟨_, hname.name?_eq hw, more, ?_, ?_⟩
  · rw [hname.drop_append hw, htake, hbehind, List.drop_left]
  · rw [hname.drop_append hw, htake]

theorem IsName.memberName?_eq_none (hcolon : ¬ColonFollows behind) :
    Lexeme.memberName? (w ++ after) = none := by
  rw [← Option.not_isSome_iff_eq_none, Option.isSome_iff_exists]
  rintro ⟨x, hx⟩
  obtain ⟨name, hread, more, hdrop, -⟩ := Lexeme.memberName?_eq_some_iff.1 hx
  obtain rfl := Option.some.inj ((hname.name?_eq hw).symm.trans hread)
  rw [hname.drop_append hw] at hdrop
  refine hcolon ⟨behind.takeWhile Text.isBlank, more, fun c hc ↦ List.mem_takeWhile_imp hc, ?_⟩
  rw [← hdrop, List.prefix_iff_eq_append.1 (List.takeWhile_prefix _)]

end Names

section Classes

variable {w after : List Char} (hw : IsWord w after)
include hw

theorem boolean?_eq {value : Bool} (hword : w = truth value) (hends : EndsWord after) :
    Lexeme.boolean? (w ++ after) = some (.boolean value) := by
  subst hword
  cases value <;> simp [truth, Lexeme.boolean?, endsWord_iff.2 hends]

theorem boolean?_eq_none (hboolean : ∀ value, w = truth value → ¬EndsWord after) :
    Lexeme.boolean? (w ++ after) = none := by
  have hother (value : Bool) {more : List Char} (heq : w ++ after = truth value ++ more) :
      Lexeme.endsWord more = false := by
    rw [← Bool.not_eq_true, endsWord_iff]
    intro hends
    obtain ⟨rfl, rfl⟩ := hw.unique (isWord_truth value hends) heq
    exact hboolean value rfl hends
  unfold Lexeme.boolean?
  split
  · next more heq => simp [hother true heq]
  · next more heq => simp [hother false heq]
  · rfl

/-- A word with a capital in front of a parenthesis names a type. -/
theorem typeName?_eq (hcapital : IsCapitalised w) (hparen : after.head? = some '(') :
    Lexeme.typeName? (w ++ after) = some (.typeName w) := by
  obtain ⟨more, rfl⟩ := List.head?_eq_some_iff.1 hparen
  simp [Lexeme.typeName?, hw.capitalWord?_eq hcapital]

/-- A word without a capital, or without a parenthesis behind it, names no type. -/
theorem typeName?_eq_none (h : IsCapitalised w → after.head? ≠ some '(') :
    Lexeme.typeName? (w ++ after) = none := by
  by_cases hcapital : IsCapitalised w
  · have hparen := h hcapital
    rw [Lexeme.typeName?, hw.capitalWord?_eq hcapital, Option.bind_eq_bind, Option.bind_some,
      List.drop_left]
    split
    · simp at hparen
    · rfl
  · simp [Lexeme.typeName?, hw.capitalWord?_eq_none hcapital]

end Classes

/-- Truth values have no capital, so they are no types. -/
theorem not_isCapitalised_truth (value : Bool) : ¬IsCapitalised (truth value) := by
  cases value <;> simp [IsCapitalised, truth, Lexeme.isLetter.isCapital]

/-! ### What is read at a word -/

section Reads

variable {w after : List Char} (hw : IsWord w after)
include hw

/-- **What the cases allow is read.** -/
theorem inValue?_eq_some {x : Lexeme} (h : Reads w after x) :
    Lexeme.inValue? (w ++ after) = some x := by
  cases h with
  | opener hopens =>
    obtain ⟨more, heq⟩ := hopens.exists_append
    rw [heq, Lexeme.inValue?_opening]
  | @name raw word behind _ hopens hname hclassed =>
    have hopener := opener?_eq_none hw hopens
    have hnumber := number?_eq_none hw
    have hraw := hname.rawIdentifier?_eq hw
    -- The recogniser tries the classes in turn, so each case shows that none in front of it
    -- applies.
    rw [Lexeme.inValue?, hopener, hnumber, Lexeme.named?]
    cases hclassed with
    | memberName hgap hbehind => simp [hname.memberName?_eq hw hgap hbehind]
    | rawIdentifier hcolon hr =>
      subst hr
      have hmember := hname.memberName?_eq_none hw hcolon
      have hletter : w = ['r'] := by cases hname; assumption
      have hboolean := boolean?_eq_none hw fun value htruth ↦ by
        cases value <;> simp [hletter, truth] at htruth
      have htype := typeName?_eq_none hw fun hcapital ↦ by
        simp [hletter, IsCapitalised, Lexeme.isLetter.isCapital] at hcapital
      simp [hmember, hboolean, htype, hraw]
    | boolean hcolon hr hword hends =>
      subst hr
      have hmember := hname.memberName?_eq_none hw hcolon
      cases hname
      simp [hmember, boolean?_eq hw hword hends]
    | typeName hcolon hr hcapital hparen =>
      subst hr
      have hmember := hname.memberName?_eq_none hw hcolon
      cases hname
      have hboolean := boolean?_eq_none hw fun value htruth ↦
        absurd hcapital (htruth ▸ not_isCapitalised_truth value)
      simp [hmember, hboolean, typeName?_eq hw hcapital hparen]
    | variantName hcolon hr hcapital hparen =>
      subst hr
      have hmember := hname.memberName?_eq_none hw hcolon
      cases hname
      have hboolean := boolean?_eq_none hw fun value htruth ↦
        absurd hcapital (htruth ▸ not_isCapitalised_truth value)
      have htype := typeName?_eq_none hw fun _ ↦ hparen
      simp [hmember, hboolean, htype, hraw, hw.capitalWord?_eq hcapital]
    | identifier hcolon hr hboolean hcapital =>
      subst hr
      have hmember := hname.memberName?_eq_none hw hcolon
      cases hname
      have hboolean := boolean?_eq_none hw hboolean
      have htype := typeName?_eq_none hw fun h ↦ absurd h hcapital
      simp [hmember, hboolean, htype, hraw, hw.capitalWord?_eq_none hcapital, hw.word?_eq]

end Reads

/-- Where a word starts, there is one. -/
theorem exists_isWord {c : Char} (hc : Lexeme.startsWord c) (rest : List Char) :
    ∃ w after, c :: rest = w ++ after ∧ IsWord w after := by
  refine ⟨(c :: rest).takeWhile Lexeme.continuesWord, (c :: rest).dropWhile Lexeme.continuesWord,
    List.takeWhile_append_dropWhile.symm, ⟨c, ?_, hc⟩, fun d hd ↦ List.mem_takeWhile_imp hd, ?_⟩
  · rw [List.takeWhile_cons_of_pos (continuesWord_of_startsWord hc)]
    rfl
  · intro d hd
    obtain ⟨more, hmore⟩ := List.head?_eq_some_iff.1 hd
    have h := List.head_dropWhile_not (l := c :: rest) (p := Lexeme.continuesWord) (by simp [hmore])
    simpa [hmore] using h

theorem exists_isName (w after : List Char) :
    ∃ raw word behind, IsName w after raw word behind := by
  by_cases hraw : ∃ c more, w = ['r'] ∧ after = '#' :: c :: more ∧ Lexeme.startsWord c
  · obtain ⟨c, more, hr, rfl, hc⟩ := hraw
    obtain ⟨word, behind, heq, hword⟩ := exists_isWord hc more
    exact ⟨true, word, behind, .raw hr (by rw [heq]) hword⟩
  · refine ⟨false, w, after, .plain fun c more hr hafter ↦ ?_⟩
    by_contra hc
    exact hraw ⟨c, more, hr, hafter, Bool.eq_true_of_not_eq_false hc⟩

/-- A name has a class, whatever stands behind it. -/
theorem exists_isClassed (raw : Bool) (word behind : List Char) :
    ∃ x, IsClassed raw word behind x := by
  by_cases hcolon : ColonFollows behind
  · obtain ⟨gap, more, hgap, hbehind⟩ := hcolon
    exact ⟨_, .memberName hgap hbehind⟩
  cases raw with
  | true => exact ⟨_, .rawIdentifier hcolon rfl⟩
  | false =>
    by_cases hcapital : IsCapitalised word
    · by_cases hparen : behind.head? = some '('
      · exact ⟨_, .typeName hcolon rfl hcapital hparen⟩
      · exact ⟨_, .variantName hcolon rfl hcapital hparen⟩
    by_cases hboolean : ∃ value, word = truth value ∧ EndsWord behind
    · obtain ⟨value, hword, hends⟩ := hboolean
      exact ⟨_, .boolean hcolon rfl hword hends⟩
    · exact ⟨_, .identifier hcolon rfl (fun value hword hends ↦ hboolean ⟨value, hword, hends⟩)
        hcapital⟩

/-- **The cases allow something for every word.** -/
theorem exists_reads (w after : List Char) : ∃ x, Reads w after x := by
  by_cases hopens : ∃ f, Opens w after f
  · obtain ⟨f, hopens⟩ := hopens
    exact ⟨_, .opener hopens⟩
  · obtain ⟨raw, word, behind, hname⟩ := exists_isName w after
    obtain ⟨x, hclassed⟩ := exists_isClassed raw word behind
    exact ⟨x, .name (not_exists.1 hopens) hname hclassed⟩

/-! ### Words along a line -/

/-- A literal is opened with nothing counted yet. -/
theorem Opens.isFresh {w after : List Char} {f : Frame} (h : Opens w after f) : f.IsFresh := by
  cases h <;> simp [Frame.IsFresh]

/-- A name is cut off whole. -/
theorem IsClassed.pieces_eq {raw : Bool} {word behind : List Char} {x : Lexeme}
    (h : IsClassed raw word behind x) (u : Stack) :
    ∃ more, (x.step u).pieces = ⟨nameText raw word, u, some (nameScope x)⟩ :: more := by
  cases h with
  | memberName hgap hbehind => exact ⟨_, rfl⟩
  | rawIdentifier hcolon hraw =>
    subst hraw
    exact ⟨[], by simp [Lexeme.step, Step.classify, Lexeme.text, Lexeme.parts, nameText, nameScope]⟩
  | @boolean value hcolon hraw hword hends =>
    subst hraw hword
    exact ⟨[], by cases value <;> rfl⟩
  | typeName hcolon hraw => exact ⟨[], by subst hraw; rfl⟩
  | variantName hcolon hraw | identifier hcolon hraw =>
    subst hraw
    exact ⟨[], by simp [Lexeme.step, Step.classify, Lexeme.text, Lexeme.parts, nameText, nameScope]⟩

section Run

variable {s u : Stack} {line rest : List Char} {done : List Piece} {c : Char}
  (hrun : Scans s line done u (c :: rest)) (hu : u.InValue)
include hrun hu

/-- The first piece of what is read is a token, if it is classified. -/
theorem mem_tokenizeLine_of_inValue? {x : Lexeme} {p : Piece} {more : List Piece}
    (hx : Lexeme.inValue? (c :: rest) = some x) (hpieces : (x.step u).pieces = p :: more)
    (hp : p.isPlain = false) :
    ⟨Text.byteLength (Piece.textOf done),
        Text.byteLength (Piece.textOf done) + Text.byteLength p.text, p.scopes⟩ ∈
      (tokenizeLine line s).tokens := by
  have hstep : scanStep u c rest = x.step u := by
    rw [scanStep, Lexeme.recognise?_of_inValue hu, hx]
  have hnext := hrun.trans (.one u c rest)
  rw [hstep, hpieces] at hnext
  exact mem_tokenizeLine_of_scans hnext hp

end Run

/--
**What is read at a word is decided by the text behind it.** Where a word starts in value position,
one lexeme and only one is allowed by the cases of `Word.Reads`, and it is what is recognised. The
opener of a byte or a raw literal is a token inside the literal. A name is a token from its start to
its end, the raw mark included, whatever it is.
-/
theorem tokenizeLine_words {s u : Stack} {line rest : List Char} {done : List Piece} {c : Char}
    (hrun : Scans s line done u (c :: rest)) (hu : u.InValue) (hc : Lexeme.startsWord c) :
    ∃ w after x, c :: rest = w ++ after ∧ IsWord w after ∧ (∀ y, Reads w after y ↔ y = x) ∧
      Lexeme.recognise? u.head? (c :: rest) = some x ∧
      (∀ f, Opens w after f →
        ⟨Text.byteLength (Piece.textOf done),
          Text.byteLength (Piece.textOf done) + Text.byteLength f.opening,
          Stack.scopes (f :: u) ++ [f.mark]⟩ ∈ (tokenizeLine line s).tokens) ∧
      ((∀ f, ¬Opens w after f) → ∃ raw word behind, IsName w after raw word behind ∧
        IsClassed raw word behind x ∧
        ⟨Text.byteLength (Piece.textOf done),
          Text.byteLength (Piece.textOf done) + Text.byteLength (nameText raw word),
          u.scopes ++ [nameScope x]⟩ ∈ (tokenizeLine line s).tokens) := by
  obtain ⟨w, after, heq, hw⟩ := exists_isWord hc rest
  obtain ⟨x, hx⟩ := exists_reads w after
  have hread {y : Lexeme} (hy : Reads w after y) : Lexeme.inValue? (c :: rest) = some y := by
    rw [heq, inValue?_eq_some hw hy]
  have hrecognised := hread hx
  have hunique (y : Lexeme) : Reads w after y ↔ y = x := by
    refine ⟨fun hy ↦ Option.some.inj ((hread hy).symm.trans hrecognised), ?_⟩
    rintro rfl
    exact hx
  -- That the reading is unique comes of the recogniser, which cannot give two lexemes.
  refine ⟨w, after, x, heq, hw, hunique, ?_, fun f hf ↦ ?_, fun hopens ↦ ?_⟩
  · rw [Lexeme.recognise?_of_inValue hu, hrecognised]
  · have hpieces := congrArg Step.pieces (Lexeme.step_ofOpening u hf.isFresh)
    exact mem_tokenizeLine_of_inValue? hrun hu (hread (.opener hf)) hpieces rfl
  · cases hx with
    | opener hf => exact absurd hf (hopens _)
    | @name raw word behind _ _ hname hclassed =>
      obtain ⟨more, hpieces⟩ := hclassed.pieces_eq u
      exact ⟨raw, word, behind, hname, hclassed,
        mem_tokenizeLine_of_inValue? hrun hu hrecognised hpieces rfl⟩

/--
On the line `(r#true` with a no-break space and a colon behind it, the name is raw and has the raw
mark in it, and it is a member for all that a truth value stands in it.
-/
theorem tokenizeLine_words_raw_member :
    Scans [] ['(', 'r', '#', 't', 'r', 'u', 'e', '\u00a0', ':']
      [⟨['('], [.group .parens], some .parens⟩] [.group .parens]
      ['r', '#', 't', 'r', 'u', 'e', '\u00a0', ':'] ∧
    Stack.InValue [.group .parens] ∧ Lexeme.startsWord 'r' ∧
    (∃ w after x, ['r', '#', 't', 'r', 'u', 'e', '\u00a0', ':'] = w ++ after ∧ IsWord w after ∧
      (∀ y, Reads w after y ↔ y = x) ∧
      Lexeme.recognise? (some (.group .parens))
        ['r', '#', 't', 'r', 'u', 'e', '\u00a0', ':'] = some x) ∧
    Lexeme.recognise? (some (.group .parens)) ['r', '#', 't', 'r', 'u', 'e', '\u00a0', ':'] =
      some (.memberName ['r', '#', 't', 'r', 'u', 'e'] ['\u00a0']) ∧
    (tokenizeLine ['(', 'r', '#', 't', 'r', 'u', 'e', '\u00a0', ':'] []).tokens =
      [⟨0, 1, [.source, .struct, .parens]⟩, ⟨1, 7, [.source, .struct, .memberName]⟩,
        ⟨7, 9, [.source, .struct]⟩, ⟨9, 10, [.source, .struct, .colon]⟩] := by
  have hrun : Scans [] ['(', 'r', '#', 't', 'r', 'u', 'e', '\u00a0', ':']
      [⟨['('], [.group .parens], some .parens⟩] [.group .parens]
      ['r', '#', 't', 'r', 'u', 'e', '\u00a0', ':'] :=
    .one [] '(' ['r', '#', 't', 'r', 'u', 'e', '\u00a0', ':']
  have hvalue : Stack.InValue [.group .parens] := by simp [Stack.InValue, Frame.isLiteral]
  obtain ⟨w, after, x, heq, hw, hunique, hread, -⟩ := tokenizeLine_words hrun hvalue rfl
  exact ⟨hrun, hvalue, rfl, ⟨w, after, x, heq, hw, hunique, hread⟩, by decide +kernel,
    by decide +kernel⟩

end Word

end RonWorkbench
