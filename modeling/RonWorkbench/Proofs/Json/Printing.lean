import RonWorkbench.Json.Printer
import RonWorkbench.Proofs.Json.Reading

/-!
# Printing JSON and reading it back

What is printed over several lines keeps to the grammar (`Json.OnlyCounts.spells_pretty`), so it is
read back as the value that was printed (`Json.Spells.parse?_eq`). This is said of the values whose
numbers are 64-bit counts. The printer escapes one character at a time, and each form of escape is
one of the grammar's.
-/

namespace RonWorkbench.Json

/-- All numbers of the value are 64-bit counts. -/
inductive OnlyCounts : Json → Prop
  | null : OnlyCounts .null
  | bool (b : Bool) : OnlyCounts (.bool b)
  | nat {n : Nat} (hn : n < Bits.wordCount 64) : OnlyCounts (.nat n)
  | string (s : String) : OnlyCounts (.string s)
  | array {items : List Json} (h : ∀ item ∈ items, OnlyCounts item) : OnlyCounts (.array items)
  | object {members : List (String × Json)} (h : ∀ m ∈ members, OnlyCounts m.2) :
      OnlyCounts (.object members)

/-! ### Strings -/

theorem hexDigit?_hexDigit {d : Nat} (h : d < 16) : hexDigit? (hexDigit d) = some d := by
  have hall : ∀ d < 16, hexDigit? (hexDigit d) = some d := by decide
  exact hall d h

/-- A character is written as itself or as an escape that stands for it. -/
theorem SpellsText.escapeChar {written text : List Char} (h : SpellsText written text) (c : Char) :
    SpellsText (escapeChar c ++ written) (c :: text) := by
  unfold Json.escapeChar
  split_ifs with hquote hslash hbackspace htab hline hfeed hreturn hcontrol
  -- seven characters have a letter of their own
  iterate 7 exact .letter (by subst c; rfl) h
  · have hcode : hexUnit? '0' '0' (hexDigit (c.toNat / 16)) (hexDigit (c.toNat % 16)) =
        some c.toNat := by
      have hzero : hexDigit? '0' = some 0 := rfl
      rw [hexUnit?, hexDigit?_hexDigit (by omega), hexDigit?_hexDigit (by omega), hzero]
      show some (((0 * 16 + 0) * 16 + c.toNat / 16) * 16 + c.toNat % 16) = some c.toNat
      congr 1
      omega
    refine .unit ?_ h
    rw [hcode, Option.bind_some, loneUnit?, if_neg (by omega), Char.ofNat_toNat]
  · exact .plain hquote hslash (by omega) h

/-- A text that is escaped character by character spells the text. -/
theorem spellsText_flatMap (text : List Char) : SpellsText (text.flatMap escapeChar) text := by
  induction text with
  | nil => exact .nil
  | cons c text ih => exact ih.escapeChar c

theorem spells_quote (s : String) : Spells (quote s.toList) (.string s) := by
  have h : Spells (quote s.toList) (.string (String.ofList s.toList)) :=
    .string (spellsText_flatMap s.toList)
  rwa [String.ofList_toList] at h

/-! ### Values -/

theorem isGap_newLine (level : Nat) : IsGap (newLine level) := by
  intro c hc
  rcases List.mem_cons.1 hc with rfl | hc
  · rfl
  · rw [List.eq_of_mem_replicate hc]
    rfl

theorem isGap_nil : IsGap [] := by
  simp [IsGap]

/-- Items that are printed by the grammar make up a printed array of the grammar. -/
theorem spellsItems_prettyItems {level : Nat} {item : Json} {items : List Json} {after : List Char}
    (h : ∀ i ∈ item :: items, Spells (prettyAt level i) i) (hafter : IsGap after) :
    SpellsItems (prettyItems level (item :: items) ++ after) (item :: items) := by
  induction items generalizing item with
  | nil =>
    rw [prettyItems, List.append_assoc]
    exact .one (isGap_newLine level) (h item List.mem_cons_self) hafter
  | cons next items ih =>
    rw [List.forall_mem_cons] at h
    rw [prettyItems, List.append_assoc, List.append_assoc, List.cons_append]
    · exact .more (isGap_newLine level) h.1 isGap_nil (ih h.2)
    · simp

/-- Members that are printed by the grammar make up a printed object of the grammar. -/
theorem spellsMembers_prettyMembers {level : Nat} {m : String × Json}
    {members : List (String × Json)} {after : List Char}
    (h : ∀ n ∈ m :: members, Spells (prettyAt level n.2) n.2) (hafter : IsGap after) :
    SpellsMembers (prettyMembers level (m :: members) ++ after) (m :: members) := by
  have hblank : IsGap [' '] := by simp [IsGap, isBlank]
  induction members generalizing m with
  | nil =>
    obtain ⟨key, value⟩ := m
    have hone := SpellsMembers.one (isGap_newLine level) (spellsText_flatMap key.toList) isGap_nil
      hblank (h (key, value) List.mem_cons_self) hafter
    rw [String.ofList_toList] at hone
    simpa [prettyMembers, quote] using hone
  | cons next members ih =>
    obtain ⟨key, value⟩ := m
    rw [List.forall_mem_cons] at h
    have hmore := SpellsMembers.more (isGap_newLine level) (spellsText_flatMap key.toList) isGap_nil
      hblank h.1 isGap_nil (ih h.2)
    rw [String.ofList_toList] at hmore
    simpa [prettyMembers, quote] using hmore

/-- **What is printed at a level spells the value**, if its numbers are counts. -/
theorem OnlyCounts.spells_prettyAt {value : Json} (h : OnlyCounts value) (level : Nat) :
    Spells (prettyAt level value) value := by
  -- The level is general, for what is inside stands one level deeper.
  induction h generalizing level with
  | null => exact .null
  | bool b =>
    cases b with
    | true => exact .yes
    | false => exact .no
  | @nat n hn =>
    have hdigits : prettyAt level (.nat n) = Nat.toDigits 10 n := by
      show n.repr.toList = Nat.toDigits 10 n
      rw [Nat.repr_eq_ofList_toDigits, String.toList_ofList]
    rw [hdigits]
    exact .count hn
  | string s => exact spells_quote s
  | @array items _ ih =>
    cases items with
    | nil => exact .emptyArray isGap_nil
    | cons item items =>
      rw [prettyAt]
      · exact .array (spellsItems_prettyItems (fun i hi ↦ ih i hi _) (isGap_newLine level))
      · simp
  | @object members _ ih =>
    cases members with
    | nil => exact .emptyObject isGap_nil
    | cons m members =>
      rw [prettyAt]
      · exact .object (spellsMembers_prettyMembers (fun n hn ↦ ih n hn _) (isGap_newLine level))
      · simp

/-- **What is printed keeps to the grammar.** -/
theorem OnlyCounts.spells_pretty {value : Json} (h : OnlyCounts value) :
    Spells value.pretty value :=
  h.spells_prettyAt 0

end RonWorkbench.Json
