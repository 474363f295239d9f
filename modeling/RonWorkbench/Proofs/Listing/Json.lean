import RonWorkbench.Listing
import RonWorkbench.Proofs.Document.Bounds
import RonWorkbench.Proofs.Json.Printing

/-!
# The JSON listing holds the document

The JSON form of a document is read back as the document (`Document.ofJson?_toJson`), and its text
as the form (`Document.onlyCounts_toJson`), so long as all that the document counts fits into 64
bits. What a document counts is no more than the bytes of its text.
-/

namespace RonWorkbench

variable {bound : Nat}

/-! ### Counts -/

/-- A 64-bit count is read back from its value. -/
theorem Json.nat?_nat {n : Nat} (hn : n < Bits.wordCount 64) : (Json.nat n).nat? = some n := by
  simp [Json.nat?, Json.nat, Json.natBelow?, hn]

/-- A word of so many bits has a power of two values. -/
theorem wordCount_eq (bits : Nat) : Bits.wordCount bits = 2 ^ bits :=
  rfl

/-- A depth is kept in 64 bits. -/
theorem toNat_lt_wordCount (depth : UInt64) : depth.toNat < Bits.wordCount 64 := by
  rw [wordCount_eq]
  exact depth.toNat_lt

/-- What is read of each item is read of the list. -/
theorem mapM_map_congr {α β γ : Type} {f : α → β} {g : β → Option γ} {k : α → Option γ} {l : List α}
    (h : ∀ a ∈ l, g (f a) = k a) : (l.map f).mapM g = l.mapM k := by
  induction l with
  | nil => rfl
  | cons a l ih =>
    rw [List.forall_mem_cons] at h
    rw [List.map_cons, List.mapM_cons, List.mapM_cons, h.1, ih h.2]

/-- A list is read back if each of its items is. -/
theorem Json.mapM_map_eq_some {α : Type} {write : α → Json} {read? : Json → Option α} {l : List α}
    (h : ∀ a ∈ l, read? (write a) = some a) : (l.map write).mapM read? = some l := by
  have hall : l.mapM (some : α → Option α) = some (l.map id) := List.mapM_pure
  rw [mapM_map_congr h, hall, List.map_id]

/-! ### Forms are read back part by part

The parts stay variables here: a count's bound is too large a number to compute with. -/

section Parts

variable {a b c : Json}

theorem Frame.ofJson?_blockComment {n : Nat} (hdepth : a.nat? = some n) :
    ofJson? (.object [("block-comment", .object [("depth", a)])]) =
      some (.blockComment (UInt64.ofNat n)) := by
  simp [ofJson?, Json.member?, Json.lastMember?, hdepth]

/-- A raw string is read from its hashes and its mark. -/
theorem Frame.ofJson?_rawQuoted {n : Nat} {byte : Bool} (hhashes : a.nat? = some n)
    (hbyte : b.bool? = some byte) :
    ofJson? (.object [("raw-str", .object [("hashes", a), ("byte", b)])]) =
      some (.rawQuoted n byte) := by
  simp [ofJson?, Json.member?, Json.lastMember?, hhashes, hbyte]

/-- A token is read from its range and its scopes. -/
theorem Token.ofJson?_object {start stop : Nat} {items : List Json} {scopes : List Scope}
    (hstart : a.nat? = some start) (hstop : b.nat? = some stop)
    (hscopes : items.mapM Scope.ofJson? = some scopes) :
    ofJson? (.object [("range", .object [("start", a), ("end", b)]), ("scopes", .array items)]) =
      some ⟨start, stop, scopes⟩ := by
  simp [ofJson?, Json.member?, Json.lastMember?, Json.items?, hstart, hstop, hscopes]

theorem Document.Line.ofJson?_object {number offset : Nat} {text : String} {items : List Json}
    {tokens : List Token} (hnumber : a.nat? = some number) (hoffset : b.nat? = some offset)
    (htext : c.string? = some text) (htokens : items.mapM Token.ofJson? = some tokens) :
    ofJson? (.object [("number", a), ("offset", b), ("text", c), ("tokens", .array items)]) =
      some ⟨number, offset, text.toList, tokens⟩ := by
  simp [ofJson?, Json.member?, Json.lastMember?, Json.items?, hnumber, hoffset, htext, htokens]

/-- A document is read from its lines and its stack. -/
theorem Document.ofJson?_object {items : List Json} {lines : List Document.Line} {stack : Stack}
    (hlines : items.mapM Document.Line.ofJson? = some lines)
    (hstack : Stack.ofJson? a = some stack) :
    ofJson? (.object [("lines", .array items), ("stack", a)]) = some ⟨lines, stack⟩ := by
  simp [ofJson?, Json.member?, Json.lastMember?, Json.items?, hlines, hstack]

end Parts

/-! ### The forms of a document -/

theorem Scope.ofJson?_string (s : Scope) : ofJson? (.string s.name) = some s := by
  simp [ofJson?, Json.string?]

/-- An open construct is read back, if its hashes can be counted in a word. -/
theorem Frame.ofJson?_toJson {f : Frame}
    (hhashes : ∀ hashes byte, f = .rawQuoted hashes byte → hashes < Bits.wordCount 64) :
    ofJson? f.toJson = some f := by
  cases f with
  | blockComment depth =>
    rw [toJson, ofJson?_blockComment (Json.nat?_nat (toNat_lt_wordCount depth)),
      UInt64.ofNat_toNat]
  | quoted byte => simp [toJson, ofJson?, Json.member?, Json.lastMember?, Json.bool?]
  | rawQuoted hashes byte =>
    exact ofJson?_rawQuoted (Json.nat?_nat (hhashes hashes byte rfl)) rfl
  | character byte => simp [toJson, ofJson?, Json.member?, Json.lastMember?, Json.bool?]
  | group kind => cases kind <;> rfl

theorem Stack.HashesWithin.ofJson?_toJson {s : Stack} (h : s.HashesWithin bound)
    (hbound : bound < Bits.wordCount 64) : ofJson? (toJson s) = some s := by
  have hframes : (s.reverse.map Frame.toJson).mapM Frame.ofJson? = some s.reverse :=
    Json.mapM_map_eq_some fun f hf ↦ Frame.ofJson?_toJson fun hashes byte hraw ↦
      (h hashes byte (hraw ▸ List.mem_reverse.1 hf)).trans_lt hbound
  rw [toJson, ofJson?, Json.items?, Option.bind_eq_bind, Option.bind_some, hframes]
  exact congrArg some (List.reverse_reverse s)

/-- A token is read back, if its ends can be counted in a word. -/
theorem Token.ofJson?_toJson {t : Token} (hstart : t.start < Bits.wordCount 64)
    (hstop : t.stop < Bits.wordCount 64) : ofJson? t.toJson = some t :=
  ofJson?_object (Json.nat?_nat hstart) (Json.nat?_nat hstop)
    (Json.mapM_map_eq_some fun s _ ↦ s.ofJson?_string)

theorem Document.Line.ofJson?_toJson {line : Document.Line}
    (hnumber : line.number < Bits.wordCount 64) (hoffset : line.offset < Bits.wordCount 64)
    (htokens : ∀ t ∈ line.tokens, t.start < Bits.wordCount 64 ∧ t.stop < Bits.wordCount 64) :
    ofJson? line.toJson = some line := by
  have hread := ofJson?_object (c := .string (String.ofList line.text)) (Json.nat?_nat hnumber)
    (Json.nat?_nat hoffset) rfl
    (Json.mapM_map_eq_some fun t ht ↦ Token.ofJson?_toJson (htokens t ht).1 (htokens t ht).2)
  rwa [String.toList_ofList] at hread

namespace Document

/-- A bound on the counts of a document bounds the ends of its tokens. -/
theorem CountsWithin.forall_tokens_lt {d : Document} (h : d.CountsWithin bound)
    (hbound : bound < Bits.wordCount 64) {line : Line} (hline : line ∈ d.lines) :
    ∀ t ∈ line.tokens, t.start < Bits.wordCount 64 ∧ t.stop < Bits.wordCount 64 := by
  intro t ht
  obtain ⟨hle, hstop⟩ := h.stop_le line hline t ht
  exact ⟨(hle.trans hstop).trans_lt hbound, hstop.trans_lt hbound⟩

/-- **The JSON form of a document is read back.** -/
theorem CountsWithin.ofJson?_toJson {d : Document} (h : d.CountsWithin bound)
    (hbound : bound < Bits.wordCount 64) : ofJson? d.toJson = some d :=
  ofJson?_object
    (Json.mapM_map_eq_some fun line hline ↦ Line.ofJson?_toJson
      ((h.number_le line hline).trans_lt hbound) ((h.offset_le line hline).trans_lt hbound)
      (h.forall_tokens_lt hbound hline))
    (h.hashes_le.ofJson?_toJson hbound)

end Document

/-! ### The numbers of the forms -/

theorem Json.OnlyCounts.map {α : Type} {write : α → Json} {l : List α}
    (h : ∀ a ∈ l, OnlyCounts (write a)) : OnlyCounts (.array (l.map write)) := by
  refine .array fun item hitem ↦ ?_
  obtain ⟨a, ha, rfl⟩ := List.mem_map.1 hitem
  exact h a ha

/-- The members of an object one by one. -/
theorem Json.OnlyCounts.object_of_forall {members : List (String × Json)}
    (h : (members.map Prod.snd).Forall OnlyCounts) : OnlyCounts (.object members) :=
  .object fun m hm ↦ List.forall_iff_forall_mem.1 h m.2 (List.mem_map_of_mem hm)

open Json (OnlyCounts)

/-- The numbers of an open construct are 64-bit counts. -/
theorem Frame.onlyCounts_toJson {f : Frame}
    (hhashes : ∀ hashes byte, f = .rawQuoted hashes byte → hashes < Bits.wordCount 64) :
    OnlyCounts f.toJson := by
  cases f with
  | blockComment depth =>
    exact .object_of_forall (.object_of_forall (.nat (toNat_lt_wordCount depth)))
  | quoted byte => exact .object_of_forall (.object_of_forall (.bool byte))
  | rawQuoted hashes byte =>
    exact .object_of_forall (.object_of_forall ⟨.nat (hhashes hashes byte rfl), .bool byte⟩)
  | character byte => exact .object_of_forall (.object_of_forall (.bool byte))
  | group kind => exact .object_of_forall (.string kind.name)

theorem Stack.HashesWithin.onlyCounts_toJson {s : Stack} (h : s.HashesWithin bound)
    (hbound : bound < Bits.wordCount 64) : OnlyCounts (toJson s) :=
  .map fun _ hf ↦ Frame.onlyCounts_toJson fun hashes byte hraw ↦
    (h hashes byte (hraw ▸ List.mem_reverse.1 hf)).trans_lt hbound

theorem Token.onlyCounts_toJson {t : Token} (hstart : t.start < Bits.wordCount 64)
    (hstop : t.stop < Bits.wordCount 64) : OnlyCounts t.toJson :=
  .object_of_forall
    ⟨.object_of_forall ⟨.nat hstart, .nat hstop⟩, .map fun s _ ↦ .string s.name⟩

namespace Document

/-- The numbers of a line are its number, its offset and those of its tokens. -/
theorem Line.onlyCounts_toJson {line : Line}
    (hnumber : line.number < Bits.wordCount 64) (hoffset : line.offset < Bits.wordCount 64)
    (htokens : ∀ t ∈ line.tokens, t.start < Bits.wordCount 64 ∧ t.stop < Bits.wordCount 64) :
    OnlyCounts line.toJson :=
  .object_of_forall ⟨.nat hnumber, .nat hoffset, .string _,
    .map fun t ht ↦ Token.onlyCounts_toJson (htokens t ht).1 (htokens t ht).2⟩

/-- **All numbers of a document are 64-bit counts**, if its own are. -/
theorem CountsWithin.onlyCounts_toJson {d : Document} (h : d.CountsWithin bound)
    (hbound : bound < Bits.wordCount 64) : OnlyCounts d.toJson :=
  .object_of_forall
    ⟨.map fun line hline ↦ Line.onlyCounts_toJson ((h.number_le line hline).trans_lt hbound)
        ((h.offset_le line hline).trans_lt hbound) (h.forall_tokens_lt hbound hline),
      h.hashes_le.onlyCounts_toJson hbound⟩

/-! ### Texts -/

/-- **The document of a text is read back from its value.** -/
theorem ofJson?_toJson_ofText {text : List Char} (h : Text.byteLength text < 2 ^ 64) :
    ofJson? (ofText text).toJson = some (ofText text) :=
  (countsWithin_ofText text).ofJson?_toJson h

/-- **The listing of a text spells the value of its document.** -/
theorem spells_listing_json {text : List Char} (h : Text.byteLength text < 2 ^ 64) :
    Json.Spells ((ofText text).listing .json) (ofText text).toJson :=
  ((countsWithin_ofText text).onlyCounts_toJson h).spells_pretty

/-- The document that a JSON listing is of. -/
theorem parse?_listing_json {text : List Char} (h : Text.byteLength text < 2 ^ 64) :
    (Json.parse? ((ofText text).listing .json)).bind ofJson? = some (ofText text) := by
  rw [(spells_listing_json h).parse?_eq, Option.bind_some, ofJson?_toJson_ofText h]

/--
**The JSON listing is an encoding of the document.** It is a JSON text, which has one reading only,
and that reading is the form of the whole document: every line, every token with its scopes, and
every frame that is left open. The reader reads the document back, so documents that differ are
listed differently.

The bound is that of a text in memory: lines, offsets and hashes are counted in a word.
-/
theorem listing_json_reads_back {text : List Char} (h : Text.byteLength text < 2 ^ 64) :
    (∃ value, Json.Spells ((ofText text).listing .json) value) ∧
    (∀ value, Json.Spells ((ofText text).listing .json) value →
      ofJson? value = some (ofText text)) ∧
    (Json.parse? ((ofText text).listing .json)).bind ofJson? = some (ofText text) ∧
    ∀ other : List Char, Text.byteLength other < 2 ^ 64 → ofText other ≠ ofText text →
      (ofText other).listing .json ≠ (ofText text).listing .json := by
  have hspells := spells_listing_json h
  refine ⟨⟨_, hspells⟩, fun value hvalue ↦ ?_, parse?_listing_json h, fun other hother hne heq ↦ ?_⟩
  · -- what the reader reads is the only reading
    have hone := hvalue.parse?_eq
    rw [hspells.parse?_eq] at hone
    rw [← Option.some.inj hone]
    exact ofJson?_toJson_ofText h
  · have hread := parse?_listing_json hother
    rw [heq, parse?_listing_json h] at hread
    exact hne (Option.some.inj hread).symm

/--
A string with a quote, a backslash, a control character and a return in it, a character beyond the
basic plane, and behind it a raw string and a comment that stay open.
-/
theorem listing_json_reads_back_escapes :
    (Json.parse? ((ofText ['(', '"', '\\', '"', '\x01', '\r', '😀', '"', '\n', 'b', 'r', '#', '"',
      '\n']).listing .json)).bind ofJson? =
      some (ofText
        ['(', '"', '\\', '"', '\x01', '\r', '😀', '"', '\n', 'b', 'r', '#', '"', '\n']) ∧
    (ofText ['/', '*', '\n', '[']).listing .json ≠
      (ofText ['/', '*', '\r', '\n', '[']).listing .json :=
  ⟨(listing_json_reads_back (by decide)).2.2.1,
    (listing_json_reads_back (by decide)).2.2.2 _ (by decide) (by decide +kernel)⟩

end Document

end RonWorkbench
