import Mathlib.Data.List.Basic
import RonWorkbench.Json.Reader

/-!
# What a JSON text says

`Json.Spells` is the grammar of JSON texts whose numbers are 64-bit counts: blanks may stand between
all parts, and a character of a string stands for itself or is escaped. The reader agrees with it
(`Json.Spells.parse?_eq`): a text that spells a value is read as that value. So a text spells one
value at most, and a printer has only to keep to the grammar.

The grammar is three relations in one another, for values, items and members, and what is proved of
the reader goes along them, over an arbitrary rest of the text. Only a number needs to know of the
rest: it ends where its digits end (`Json.Ends`). The reader's depth is bounded, and the length of
what it reads is depth enough.
-/

namespace RonWorkbench.Json

/-- Blanks that may stand between the parts of a text. -/
def IsGap (text : List Char) : Prop :=
  ∀ c ∈ text, isBlank c = true

/-- What stands between two quotes, and the text that it stands for. -/
inductive SpellsText : List Char → List Char → Prop
  | nil : SpellsText [] []
  /-- A character that stands for itself. -/
  | plain {c : Char} {written text : List Char} (hquote : c ≠ '"') (hslash : c ≠ '\\')
      (hcontrol : 0x20 ≤ c.toNat) (h : SpellsText written text) :
      SpellsText (c :: written) (c :: text)
  /-- A letter behind a backslash. -/
  | letter {l c : Char} {written text : List Char} (hl : shortEscape? l = some c)
      (h : SpellsText written text) : SpellsText ('\\' :: l :: written) (c :: text)
  /-- A character by its code. -/
  | unit {a b c d x : Char} {written text : List Char}
      (hx : (hexUnit? a b c d).bind loneUnit? = some x) (h : SpellsText written text) :
      SpellsText ('\\' :: 'u' :: a :: b :: c :: d :: written) (x :: text)

mutual

/-- The text of a value, without blanks around it. -/
inductive Spells : List Char → Json → Prop
  | null : Spells ['n', 'u', 'l', 'l'] .null
  | yes : Spells ['t', 'r', 'u', 'e'] (.bool true)
  | no : Spells ['f', 'a', 'l', 's', 'e'] (.bool false)
  | count {n : Nat} (hn : n < Bits.wordCount 64) : Spells (Nat.toDigits 10 n) (.nat n)
  | string {written text : List Char} (h : SpellsText written text) :
      Spells ('"' :: (written ++ ['"'])) (.string (String.ofList text))
  | emptyArray {gap : List Char} (hgap : IsGap gap) : Spells ('[' :: (gap ++ [']'])) (.array [])
  | array {written : List Char} {items : List Json} (h : SpellsItems written items) :
      Spells ('[' :: (written ++ [']'])) (.array items)
  | emptyObject {gap : List Char} (hgap : IsGap gap) : Spells ('{' :: (gap ++ ['}'])) (.object [])
  | object {written : List Char} {members : List (String × Json)}
      (h : SpellsMembers written members) : Spells ('{' :: (written ++ ['}'])) (.object members)

/-- The text of the items of an array, at least one. -/
inductive SpellsItems : List Char → List Json → Prop
  | one {before written after : List Char} {item : Json} (hbefore : IsGap before)
      (h : Spells written item) (hafter : IsGap after) :
      SpellsItems (before ++ (written ++ after)) [item]
  | more {before written after others : List Char} {item : Json} {items : List Json}
      (hbefore : IsGap before) (h : Spells written item) (hafter : IsGap after)
      (hothers : SpellsItems others items) :
      SpellsItems (before ++ (written ++ (after ++ ',' :: others))) (item :: items)

/-- The text of the members of an object, at least one. -/
inductive SpellsMembers : List Char → List (String × Json) → Prop
  | one {before key name gap front written after : List Char} {value : Json}
      (hbefore : IsGap before) (hkey : SpellsText key name) (hgap : IsGap gap)
      (hfront : IsGap front) (h : Spells written value) (hafter : IsGap after) :
      SpellsMembers
        (before ++ '"' :: (key ++ '"' :: (gap ++ ':' :: (front ++ (written ++ after)))))
        [(String.ofList name, value)]
  | more {before key name gap front written after others : List Char} {value : Json}
      {members : List (String × Json)} (hbefore : IsGap before) (hkey : SpellsText key name)
      (hgap : IsGap gap) (hfront : IsGap front) (h : Spells written value) (hafter : IsGap after)
      (hothers : SpellsMembers others members) :
      SpellsMembers
        (before ++ '"' ::
          (key ++ '"' :: (gap ++ ':' :: (front ++ (written ++ (after ++ ',' :: others))))))
        ((String.ofList name, value) :: members)

end

/-! ### Strings -/

/-- A character that needs no escape stands for itself. -/
theorem stringBody?_plain {c : Char} (hquote : c ≠ '"') (hslash : c ≠ '\\')
    (hcontrol : 0x20 ≤ c.toNat) (rest : List Char) :
    stringBody? (c :: rest) = (stringBody? rest).map fun r ↦ (c :: r.1, r.2) := by
  have hplain : ¬ (c = '\\' ∨ c.toNat < 0x20) := by simp [hslash, hcontrol]
  rw [stringBody?.eq_5 _ _ hquote (by simp [hslash]) (by simp [hslash]) (by simp [hslash]),
    if_neg hplain, Option.map_eq_bind]
  rfl

/-- A letter behind a backslash stands for its character. -/
theorem stringBody?_letter {l c : Char} (hl : shortEscape? l = some c) (rest : List Char) :
    stringBody? ('\\' :: l :: rest) = (stringBody? rest).map fun r ↦ (c :: r.1, r.2) := by
  have hne : l ≠ 'u' := by
    rintro rfl
    simp [shortEscape?] at hl
  rw [stringBody?.eq_4 _ _ (by simp [hne]) (by simp [hne]), consEscape, hl, Option.map_eq_bind]
  rfl

/-- Four hexadecimal digits stand for the character of that number. -/
theorem stringBody?_unit {a b c d x : Char} (hx : (hexUnit? a b c d).bind loneUnit? = some x)
    (rest : List Char) :
    stringBody? ('\\' :: 'u' :: a :: b :: c :: d :: rest) =
      (stringBody? rest).map fun r ↦ (x :: r.1, r.2) := by
  obtain ⟨n, hn, hx⟩ := Option.bind_eq_some_iff.1 hx
  rw [Option.map_eq_bind]
  -- the reader looks for a second unit before it looks at the first
  by_cases hsecond : ∃ e f g h more, rest = '\\' :: 'u' :: e :: f :: g :: h :: more
  · obtain ⟨e, f, g, h, more, rfl⟩ := hsecond
    rw [stringBody?.eq_2, hn, Option.bind_eq_bind, Option.bind_some, hx]
    rfl
  · rw [stringBody?.eq_3 _ _ _ _ _ fun e f g h more hrest ↦ hsecond ⟨e, f, g, h, more, hrest⟩, hn,
      Option.bind_eq_bind, Option.bind_some, hx]
    rfl

/-- **The text between two quotes is read back.** -/
theorem SpellsText.stringBody?_eq {written text : List Char} (h : SpellsText written text)
    (rest : List Char) : stringBody? (written ++ '"' :: rest) = some (text, rest) := by
  induction h with
  | nil => rw [List.nil_append, stringBody?]
  | plain hquote hslash hcontrol _ ih =>
    rw [List.cons_append, stringBody?_plain hquote hslash hcontrol, ih]
    rfl
  | letter hl _ ih =>
    rw [List.cons_append, List.cons_append, stringBody?_letter hl, ih]
    rfl
  | unit hx _ ih =>
    simp only [List.cons_append]
    rw [stringBody?_unit hx, ih]
    rfl

/-! ### Blanks -/

theorem skipBlanks_append {gap : List Char} (hgap : IsGap gap) (rest : List Char) :
    skipBlanks (gap ++ rest) = skipBlanks rest := by
  rw [skipBlanks, List.dropWhile_append_of_pos hgap, skipBlanks]

theorem skipBlanks_cons {c : Char} (hc : isBlank c = false) (rest : List Char) :
    skipBlanks (c :: rest) = c :: rest := by
  rw [skipBlanks, List.dropWhile_cons_of_neg (by simp [hc])]

/-- Blanks in front of a value are passed over. -/
theorem readValue?_gap {gap : List Char} (hgap : IsGap gap) (fuel : Nat) (rest : List Char) :
    readValue? fuel (gap ++ rest) = readValue? fuel rest := by
  cases fuel with
  | zero => simp [readValue?]
  | succ fuel => rw [readValue?, readValue?, skipBlanks_append hgap]

/-! ### Counts -/

/-- Behind a value stands nothing more, or a blank, or what parts it from its neighbours. -/
def Ends (rest : List Char) : Prop :=
  ∀ c ∈ rest.head?, isBlank c = true ∨ c = ',' ∨ c = ']' ∨ c = '}'

/-- A value ends in front of blanks if it ends behind them. -/
theorem Ends.append {gap rest : List Char} (hgap : IsGap gap) (hrest : Ends rest) :
    Ends (gap ++ rest) := by
  cases gap with
  | nil => exact hrest
  | cons c gap =>
    intro d hd
    obtain rfl : c = d := by simpa using hd
    exact .inl (hgap c List.mem_cons_self)

/-- Where a value ends, nothing stands that could go on with it. -/
theorem Ends.ne_of_cons {c d : Char} {rest : List Char} (h : Ends (c :: rest))
    (hd : isBlank d = false ∧ d ≠ ',' ∧ d ≠ ']' ∧ d ≠ '}') : c ≠ d := by
  rintro rfl
  obtain ⟨hblank, hcomma, hbracket, hbrace⟩ := hd
  rcases h c rfl with h | h | h | h
  · simp [hblank] at h
  · exact hcomma h
  · exact hbracket h
  · exact hbrace h

theorem digit?_of_isDigit {c : Char} (h : c.isDigit = true) :
    digit? c = some (c.toNat - '0'.toNat) := by
  rw [digit?, if_pos]
  simpa [Char.isDigit, Char.le_def] using h

theorem Ends.digit?_eq_none {c : Char} {rest : List Char} (h : Ends (c :: rest)) :
    digit? c = none := by
  have hc := h c rfl
  simp only [isBlank, Bool.or_eq_true, beq_iff_eq] at hc
  rcases hc with ((((rfl | rfl) | rfl) | rfl) | rfl | rfl | rfl) <;> rfl

/-- A run of digits is read up to its end. -/
theorem digits_append {cs rest : List Char} (hcs : ∀ c ∈ cs, c.isDigit = true)
    (hrest : Ends rest) :
    digits (cs ++ rest) = (cs.map fun c ↦ c.toNat - '0'.toNat, rest) := by
  induction cs with
  | nil =>
    cases rest with
    | nil => rfl
    | cons c rest => simp [digits, hrest.digit?_eq_none]
  | cons c cs ih =>
    rw [List.forall_mem_cons] at hcs
    simp [digits, digit?_of_isDigit hcs.1, ih hcs.2]

theorem isDigit_of_mem_toDigits {n : Nat} {c : Char} (h : c ∈ Nat.toDigits 10 n) :
    c.isDigit = true :=
  Nat.isDigit_of_mem_toDigits (by decide) (by decide) h

/-- No zero stands in front of a positive number. -/
theorem head?_toDigits_ne {n : Nat} (hn : 0 < n) : (Nat.toDigits 10 n).head? ≠ some '0' := by
  induction n using Nat.strongRecOn with
  | ind n ih =>
    rw [Nat.toDigits_eq_if (by decide)]
    split
    · next hlt =>
      have hall : ∀ m < 10, 0 < m → [m.digitChar].head? ≠ some '0' := by decide
      exact hall n hlt hn
    · rw [List.head?_append, Option.or_of_isSome (by simp [Nat.toDigits_ne_nil])]
      exact ih (n / 10) (by omega) (by omega)

/-- The digits of a count as values: there are some, and a zero in front of them stands alone. -/
theorem exists_digits_toDigits (n : Nat) {rest : List Char} (hrest : Ends rest) :
    ∃ ds, digits (Nat.toDigits 10 n ++ rest) = (ds, rest) ∧
      ¬ (ds.isEmpty = true ∨ (ds.head? = some 0 ∧ 1 < ds.length)) ∧
        ds.foldl (fun n d ↦ n * 10 + d) 0 = n := by
  refine ⟨_, digits_append (fun _ ↦ isDigit_of_mem_toDigits) hrest, ?_, ?_⟩
  · rintro (hempty | ⟨hhead, hlength⟩)
    · simp [Nat.toDigits_ne_nil] at hempty
    · rw [List.head?_map, Option.map_eq_some_iff] at hhead
      obtain ⟨c, hc, hvalue⟩ := hhead
      have hdigit : c.isDigit = true := isDigit_of_mem_toDigits (List.mem_of_head? hc)
      have hzero : c = '0' := by
        simp only [Char.isDigit, Bool.and_eq_true, decide_eq_true_eq, ge_iff_le] at hdigit
        have hle : '0'.toNat ≤ c.toNat := UInt32.le_iff_toNat_le.1 hdigit.1
        exact Char.toNat_inj.1 (by omega)
      rcases Nat.eq_zero_or_pos n with rfl | hpos
      · simp at hlength
      · exact head?_toDigits_ne hpos (hzero ▸ hc)
  · have hvalue : Nat.ofDigitChars 10 (Nat.toDigits 10 n) 0 = n :=
      Nat.ofDigitChars_toDigits (by decide) (by decide)
    rw [Nat.ofDigitChars_eq_foldl] at hvalue
    rw [List.foldl_map]
    simpa only [Nat.mul_comm] using hvalue

theorem Ends.fractionDigits?_eq {rest : List Char} (h : Ends rest) :
    fractionDigits? rest = some (none, rest) := by
  cases rest with
  | nil => rfl
  | cons c rest =>
    have hpoint : c ≠ '.' := h.ne_of_cons (by decide)
    rw [fractionDigits?]
    simpa using hpoint

theorem Ends.exponent?_eq {rest : List Char} (h : Ends rest) :
    exponent? rest = some (none, rest) := by
  cases rest with
  | nil => rfl
  | cons c rest =>
    have hlower : c ≠ 'e' := h.ne_of_cons (by decide)
    have hupper : c ≠ 'E' := h.ne_of_cons (by decide)
    simp [exponent?, hlower, hupper]

/-- **A count is read back.** -/
theorem unsigned?_toDigits {n : Nat} (hn : n < Bits.wordCount 64) {rest : List Char}
    (hrest : Ends rest) :
    unsigned? false (Nat.toDigits 10 n ++ rest) = some (.nat n, rest) := by
  obtain ⟨ds, hdigits, hform, hvalue⟩ := exists_digits_toDigits n hrest
  have hfits : decide (n < wordLimit) = true := decide_eq_true hn
  rw [unsigned?]
  simp only [hdigits, hvalue, hfits]
  rw [if_neg hform, hrest.fractionDigits?_eq]
  simp only [Option.bind_eq_bind, Option.bind_some]
  rw [hrest.exponent?_eq]
  rfl

theorem exists_toDigits_eq_cons (n : Nat) :
    ∃ c more, Nat.toDigits 10 n = c :: more ∧ c.isDigit = true := by
  obtain ⟨c, more, hcons⟩ := List.exists_cons_of_ne_nil (Nat.toDigits_ne_nil (n := n) (b := 10))
  exact ⟨c, more, hcons, isDigit_of_mem_toDigits (n := n) (by simp [hcons])⟩

theorem isBlank_of_isDigit {c : Char} (h : c.isDigit = true) : isBlank c = false := by
  rw [Bool.eq_false_iff]
  intro hblank
  simp only [isBlank, Bool.or_eq_true, beq_iff_eq] at hblank
  rcases hblank with ((rfl | rfl) | rfl) | rfl <;> simp at h

/-- **A count is read from its digits**, if a word can hold it. -/
theorem readValue?_toDigits {n : Nat} (hn : n < Bits.wordCount 64) (fuel : Nat) {rest : List Char}
    (hrest : Ends rest) :
    readValue? (fuel + 1) (Nat.toDigits 10 n ++ rest) = some (.nat n, rest) := by
  obtain ⟨c, more, hcons, hdigit⟩ := exists_toDigits_eq_cons n
  have hcount := unsigned?_toDigits hn hrest
  rw [hcons, List.cons_append] at hcount ⊢
  have hnumber : number? (c :: (more ++ rest)) = some (.nat n, rest) := by
    rw [number?]
    · exact hcount
    · intro tail hminus
      rw [(List.cons.inj hminus).1] at hdigit
      simp at hdigit
  -- a digit is none of the characters by which the reader knows the other values
  rw [readValue?, skipBlanks_cons (isBlank_of_isDigit hdigit)]
  split <;> simp_all

/-! ### Values -/

/-- A value begins with no blank, and not with the end of an array. -/
theorem Spells.exists_cons {written : List Char} {value : Json} (h : Spells written value) :
    ∃ c more, written = c :: more ∧ isBlank c = false ∧ c ≠ ']' := by
  cases h with
  | @count n hn =>
    obtain ⟨c, more, hcons, hdigit⟩ := exists_toDigits_eq_cons n
    refine ⟨c, more, hcons, isBlank_of_isDigit hdigit, ?_⟩
    rintro rfl
    simp at hdigit
  | null | yes | no | string | emptyArray | array | emptyObject | object =>
    exact ⟨_, _, rfl, by decide, by decide⟩

/-- An array that has items is not taken for an empty one. -/
theorem SpellsItems.readValue?_eq {written : List Char} {items : List Json}
    (h : SpellsItems written items) (fuel : Nat) (rest : List Char) :
    readValue? (fuel + 1) ('[' :: (written ++ rest)) =
      (readItems? fuel (written ++ rest)).map fun r ↦ (.array r.1, r.2) := by
  obtain ⟨gap, c, more, rfl, hgap, hblank, hclose⟩ : ∃ gap c more, written = gap ++ c :: more ∧
      IsGap gap ∧ isBlank c = false ∧ c ≠ ']' := by
    cases h with
    | @one before _ _ _ hbefore h | @more before _ _ _ _ _ hbefore h =>
      obtain ⟨c, more, rfl, hblank, hclose⟩ := h.exists_cons
      exact ⟨before, c, _, rfl, hbefore, hblank, hclose⟩
  have hskip : skipBlanks (gap ++ c :: more ++ rest) = c :: (more ++ rest) := by
    rw [List.append_assoc, skipBlanks_append hgap, List.cons_append, skipBlanks_cons hblank]
  have hitems : readItems? fuel (gap ++ c :: more ++ rest) =
      readItems? fuel (c :: (more ++ rest)) := by
    cases fuel with
    | zero => simp [readItems?]
    | succ fuel =>
      rw [readItems?, readItems?, List.append_assoc, readValue?_gap hgap, List.cons_append]
  rw [hitems, readValue?, skipBlanks_cons (by decide)]
  simp only [hskip]
  split
  · simp_all
  · rfl

/-- An object that has members is not taken for an empty one. -/
theorem SpellsMembers.readValue?_eq {written : List Char} {members : List (String × Json)}
    (h : SpellsMembers written members) (fuel : Nat) (rest : List Char) :
    readValue? (fuel + 1) ('{' :: (written ++ rest)) =
      (readMembers? fuel (written ++ rest)).map fun r ↦ (.object r.1, r.2) := by
  obtain ⟨gap, more, rfl, hgap⟩ : ∃ gap more, written = gap ++ '"' :: more ∧ IsGap gap := by
    cases h with
    | one hbefore | more hbefore => exact ⟨_, _, rfl, hbefore⟩
  have hskip : skipBlanks (gap ++ '"' :: more ++ rest) = '"' :: (more ++ rest) := by
    rw [List.append_assoc, skipBlanks_append hgap, List.cons_append, skipBlanks_cons (by decide)]
  have hmembers : readMembers? fuel (gap ++ '"' :: more ++ rest) =
      readMembers? fuel ('"' :: (more ++ rest)) := by
    cases fuel with
    | zero => simp [readMembers?]
    | succ fuel => rw [readMembers?, readMembers?, hskip, skipBlanks_cons (by decide)]
  rw [hmembers, readValue?, skipBlanks_cons (by decide)]
  simp only [hskip]
  rfl

mutual

/-- A value is read back, and what follows it is left. -/
theorem Spells.readValue?_eq {written : List Char} {value : Json} (h : Spells written value)
    {fuel : Nat} (hfuel : written.length < fuel) {rest : List Char} (hrest : Ends rest) :
    readValue? fuel (written ++ rest) = some (value, rest) := by
  -- By recursion on the spelling. A value uses up one unit of fuel and at least one character, so
  -- the length of the text is fuel enough for all that it holds.
  obtain ⟨fuel, rfl⟩ : ∃ more, fuel = more + 1 := ⟨fuel - 1, by omega⟩
  cases h with
  | null | yes | no =>
    rw [readValue?]
    simp [keyword?, skipBlanks, isBlank]
  | count hn => exact readValue?_toDigits hn fuel hrest
  | string h =>
    rw [readValue?, List.cons_append, skipBlanks_cons (by decide)]
    simp [h.stringBody?_eq]
  | emptyArray hgap =>
    rw [readValue?, List.cons_append, List.append_assoc, skipBlanks_cons (by decide)]
    simp only [skipBlanks_append hgap, List.singleton_append,
      skipBlanks_cons (c := ']') (by decide)]
  | array h =>
    simp only [List.length_cons, List.length_append, List.length_nil] at hfuel
    rw [List.cons_append, List.append_assoc, List.singleton_append, h.readValue?_eq,
      h.readItems?_eq (by omega)]
    rfl
  | emptyObject hgap =>
    rw [readValue?, List.cons_append, List.append_assoc, skipBlanks_cons (by decide)]
    simp only [skipBlanks_append hgap, List.singleton_append,
      skipBlanks_cons (c := '}') (by decide)]
  | object h =>
    simp only [List.length_cons, List.length_append, List.length_nil] at hfuel
    rw [List.cons_append, List.append_assoc, List.singleton_append, h.readValue?_eq,
      h.readMembers?_eq (by omega)]
    rfl

/-- Items are read back up to the bracket behind them. -/
theorem SpellsItems.readItems?_eq {written : List Char} {items : List Json}
    (h : SpellsItems written items) {fuel : Nat} (hfuel : written.length + 1 < fuel)
    {rest : List Char} : readItems? fuel (written ++ ']' :: rest) = some (items, rest) := by
  obtain ⟨fuel, rfl⟩ : ∃ more, fuel = more + 1 := ⟨fuel - 1, by omega⟩
  cases h with
  | @one before written after item hbefore h hafter =>
    simp only [List.length_append] at hfuel
    have hitem : readValue? fuel (written ++ (after ++ ']' :: rest)) =
        some (item, after ++ ']' :: rest) :=
      h.readValue?_eq (by omega) (.append hafter (by simp [Ends]))
    rw [readItems?, List.append_assoc, List.append_assoc, readValue?_gap hbefore, hitem]
    simp only [Option.bind_eq_bind, Option.bind_some, skipBlanks_append hafter,
      skipBlanks_cons (c := ']') (by decide)]
    rfl
  | @more before written after others item items hbefore h hafter hothers =>
    simp only [List.length_append, List.length_cons] at hfuel
    have hitem : readValue? fuel (written ++ (after ++ ',' :: (others ++ ']' :: rest))) =
        some (item, after ++ ',' :: (others ++ ']' :: rest)) :=
      h.readValue?_eq (by omega) (.append hafter (by simp [Ends]))
    have hmore : readItems? fuel (others ++ ']' :: rest) = some (items, rest) :=
      hothers.readItems?_eq (by omega)
    rw [readItems?, List.append_assoc, List.append_assoc, List.append_assoc, List.cons_append,
      readValue?_gap hbefore, hitem]
    simp only [Option.bind_eq_bind, Option.bind_some, skipBlanks_append hafter,
      skipBlanks_cons (c := ',') (by decide), hmore]
    rfl

/-- Members are read back up to the brace behind them. -/
theorem SpellsMembers.readMembers?_eq {written : List Char} {members : List (String × Json)}
    (h : SpellsMembers written members) {fuel : Nat} (hfuel : written.length + 1 < fuel)
    {rest : List Char} : readMembers? fuel (written ++ '}' :: rest) = some (members, rest) := by
  obtain ⟨fuel, rfl⟩ : ∃ more, fuel = more + 1 := ⟨fuel - 1, by omega⟩
  cases h with
  | @one before key name gap front written after value hbefore hkey hgap hfront h hafter =>
    simp only [List.length_append, List.length_cons] at hfuel
    -- A blank, a comma or a brace ends the value, which only a number needs to know.
    have hvalue : readValue? fuel (written ++ (after ++ '}' :: rest)) =
        some (value, after ++ '}' :: rest) :=
      h.readValue?_eq (by omega) (.append hafter (by simp [Ends]))
    simp only [readMembers?, List.append_assoc, List.cons_append, Option.bind_eq_bind,
      Option.bind_some, skipBlanks_append hbefore, skipBlanks_cons (c := '"') (by decide),
      hkey.stringBody?_eq, skipBlanks_append hgap, skipBlanks_cons (c := ':') (by decide),
      readValue?_gap hfront, hvalue, skipBlanks_append hafter,
      skipBlanks_cons (c := '}') (by decide)]
    rfl
  | @more before key name gap front written after others value members hbefore hkey hgap hfront h
      hafter hothers =>
    simp only [List.length_append, List.length_cons] at hfuel
    have hvalue : readValue? fuel (written ++ (after ++ ',' :: (others ++ '}' :: rest))) =
        some (value, after ++ ',' :: (others ++ '}' :: rest)) :=
      h.readValue?_eq (by omega) (.append hafter (by simp [Ends]))
    have hmore : readMembers? fuel (others ++ '}' :: rest) = some (members, rest) :=
      hothers.readMembers?_eq (by omega)
    simp only [readMembers?, List.append_assoc, List.cons_append, Option.bind_eq_bind,
      Option.bind_some, skipBlanks_append hbefore, skipBlanks_cons (c := '"') (by decide),
      hkey.stringBody?_eq, skipBlanks_append hgap, skipBlanks_cons (c := ':') (by decide),
      readValue?_gap hfront, hvalue, skipBlanks_append hafter,
      skipBlanks_cons (c := ',') (by decide), hmore]
    rfl

end

/-- **A text that spells a value is read as that value.** -/
theorem Spells.parse?_eq {written : List Char} {value : Json} (h : Spells written value) :
    parse? written = some value := by
  have hread : readValue? (2 * written.length + 2) (written ++ []) = some (value, []) :=
    h.readValue?_eq (by omega) (by simp [Ends])
  rw [List.append_nil] at hread
  rw [parse?, hread]
  rfl

end RonWorkbench.Json
