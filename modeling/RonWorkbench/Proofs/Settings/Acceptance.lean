import RonWorkbench.Proofs.Settings.Payload

/-!
# Which payloads can be read

A payload can be read just if each setting finds in its section nothing, a null or a value of its
own kind (`Setting.Accepts`), and, where the section is an array, if there are no more items than
settings (`Payload.Accepted`).

An object and an array are told apart by nothing but where a value is looked for: under the name of
the setting or at its place. Both shapes come down to reading the same five slots (`Payload.Reads`),
in whatever order, so it is enough to compare the slots. For an object they depend only on the
members under the five names, and an array has the slots of the object that gives its items to these
names in turn (`Json.lastMember?_zip`).
-/

namespace RonWorkbench

/-! ### Members under names -/

namespace Json

/-- There is no last member with a name that none has. -/
theorem lastMember?_eq_none {key : String} {members : List (String × Json)}
    (h : ∀ m ∈ members, m.1 ≠ key) : lastMember? key members = none := by
  induction members with
  | nil => rfl
  | cons m members ih =>
    obtain ⟨hm, hmembers⟩ := List.forall_mem_cons.1 h
    rw [lastMember?, ih hmembers, if_neg hm, Option.none_or]

/-- Where items are given to different keys in turn, a key has the item at its place. -/
theorem lastMember?_zip {keys : List String} (hkeys : keys.Nodup) {key : String} {place : Nat}
    (hplace : keys[place]? = some key) (items : List Json) :
    lastMember? key (keys.zip items) = items[place]? := by
  induction keys generalizing items place with
  | nil => simp at hplace
  | cons k keys ih =>
    obtain ⟨hk, hkeys⟩ := List.nodup_cons.1 hkeys
    cases items with
    | nil => rfl
    | cons item items =>
      rw [List.zip_cons_cons, lastMember?]
      cases place with
      | zero =>
        obtain rfl : k = key := by simpa using hplace
        -- The keys behind are others, so the item in front is the last of its name.
        have hmore : lastMember? k (keys.zip items) = none :=
          lastMember?_eq_none fun m hm ↦ ne_of_mem_of_not_mem (List.of_mem_zip hm).1 hk
        rw [hmore, if_pos rfl, Option.none_or, List.getElem?_cons_zero]
      | succ place =>
        rw [List.getElem?_cons_succ] at hplace
        have hne : k ≠ key := fun h ↦ hk (h ▸ List.mem_of_getElem? hplace)
        rw [ih hkeys hplace, if_neg hne, Option.or_none, List.getElem?_cons_succ]

end Json

namespace Settings

open Fallible

namespace Setting

/-- The settings in the order of their places. -/
def all : List Setting :=
  [path, extraArgs, maxWidth, useStdin, timeout]

/-- Their names in that order. -/
def keys : List String :=
  all.map key

theorem nodup_keys : keys.Nodup := by
  decide

/-- A setting's key stands at the setting's place. -/
theorem keys_place (setting : Setting) : keys[setting.place]? = some setting.key := by
  cases setting <;> rfl

/-- The value is of the kind of the setting, and in its range. -/
def Fits : Setting → Json → Prop
  | path, j => ∃ s, j = .string s
  | extraArgs, j => ∃ items, j = .array items ∧ ∀ item ∈ items, ∃ s, item = .string s
  | maxWidth, j => ∃ n, j = .integer n ∧ 0 ≤ n ∧ n < Bits.wordCount 32
  | useStdin, j => ∃ b, j = .bool b
  | timeout, j => ∃ n, j = .integer n ∧ 0 ≤ n ∧ n < Bits.wordCount 64

/-- What stands for the setting is absent, null or a value that fits. -/
def Accepts (setting : Setting) (slot : Option Json) : Prop :=
  slot = none ∨ slot = some .null ∨ ∃ j, slot = some j ∧ setting.Fits j

end Setting

namespace Payload

/-! ### Single values -/

theorem exists_text_eq_ok_iff {j : Json} : (∃ s, text j = .ok s) ↔ ∃ s, j = .string s := by
  constructor
  · rintro ⟨s, h⟩
    exact ⟨s, eq_string_of_text h⟩
  · rintro ⟨s, rfl⟩
    exact ⟨s, rfl⟩

theorem exists_truth_eq_ok_iff {j : Json} : (∃ b, truth j = .ok b) ↔ ∃ b, j = .bool b := by
  constructor
  · rintro ⟨b, h⟩
    exact ⟨b, eq_bool_of_truth h⟩
  · rintro ⟨b, rfl⟩
    exact ⟨b, rfl⟩

/-- The integers of so many bits are what a count accepts. -/
theorem exists_count_eq_ok_iff {bits : Nat} {wanted : String} {j : Json} :
    (∃ n, count bits wanted j = .ok n) ↔
      ∃ n, j = .integer n ∧ 0 ≤ n ∧ n < Bits.wordCount bits := by
  constructor
  · rintro ⟨n, h⟩
    cases j with
    | integer m =>
      rw [count] at h
      split at h
      · next hm => exact ⟨m, rfl, hm⟩
      · cases h
    | _ => cases h
  · rintro ⟨n, rfl, hn⟩
    exact ⟨n.toNat, if_pos hn⟩

/-- Arrays of texts are what a list setting accepts. -/
theorem exists_texts_eq_ok_iff {j : Json} :
    (∃ l, texts j = .ok l) ↔
      ∃ items, j = .array items ∧ ∀ item ∈ items, ∃ s, item = .string s := by
  constructor
  · rintro ⟨l, h⟩
    cases j with
    | array items =>
      have hitems := exists_mapM_eq_ok_iff.1 ⟨l, h⟩
      exact ⟨items, rfl, fun item hmem ↦ exists_text_eq_ok_iff.1 (hitems item hmem)⟩
    | _ => cases h
  · rintro ⟨items, rfl, hitems⟩
    exact exists_mapM_eq_ok_iff.2 fun item hmem ↦ exists_text_eq_ok_iff.2 (hitems item hmem)

/-- A reader of the values that fit reads a slot if the setting accepts it. -/
theorem exists_optional_eq_ok_iff {α : Type} {read : Json → Except PayloadFault α}
    {setting : Setting} (hread : ∀ j, (∃ a, read j = .ok a) ↔ setting.Fits j)
    {slot : Option Json} : (∃ o, optional read slot = .ok o) ↔ setting.Accepts slot := by
  unfold optional
  split
  · exact iff_of_true ⟨none, rfl⟩ (.inl rfl)
  · exact iff_of_true ⟨none, rfl⟩ (.inr (.inl rfl))
  · next j hne =>
    simp only [map_eq_ok]
    constructor
    · rintro ⟨o, a, ha, -⟩
      exact .inr (.inr ⟨j, rfl, (hread j).1 ⟨a, ha⟩⟩)
    · rintro (h | h | ⟨k, h, hfits⟩)
      · cases h
      · exact (hne (Option.some.inj h)).elim
      · obtain rfl := Option.some.inj h
        obtain ⟨a, ha⟩ := (hread j).2 hfits
        exact ⟨some a, a, ha, rfl⟩

/-! ### Slots -/

variable {slot : Setting → Option Json}

/-- **The slots can be read just if each setting accepts its own.** -/
theorem exists_reads_iff :
    (∃ c, Reads slot c) ↔ ∀ setting : Setting, setting.Accepts (slot setting) := by
  -- Each setting is read from its own value, so five acceptances make up the one of all.
  have hpath : (∃ o, path (slot .path) = .ok o) ↔ Setting.path.Accepts (slot .path) :=
    exists_optional_eq_ok_iff fun _ ↦ exists_text_eq_ok_iff
  have hextraArgs : (∃ o, extraArgs (slot .extraArgs) = .ok o) ↔
      Setting.extraArgs.Accepts (slot .extraArgs) :=
    exists_optional_eq_ok_iff fun _ ↦ exists_texts_eq_ok_iff
  have hmaxWidth : (∃ o, maxWidth (slot .maxWidth) = .ok o) ↔
      Setting.maxWidth.Accepts (slot .maxWidth) :=
    exists_optional_eq_ok_iff fun _ ↦ exists_count_eq_ok_iff
  have huseStdin : (∃ o, useStdin (slot .useStdin) = .ok o) ↔
      Setting.useStdin.Accepts (slot .useStdin) :=
    exists_optional_eq_ok_iff fun _ ↦ exists_truth_eq_ok_iff
  have htimeout : (∃ o, timeout (slot .timeout) = .ok o) ↔
      Setting.timeout.Accepts (slot .timeout) :=
    exists_optional_eq_ok_iff fun _ ↦ exists_count_eq_ok_iff
  constructor
  · rintro ⟨c, h⟩ setting
    cases setting with
    | path => exact hpath.1 ⟨_, h.path⟩
    | extraArgs => exact hextraArgs.1 ⟨_, h.extraArgs⟩
    | maxWidth => exact hmaxWidth.1 ⟨_, h.maxWidth⟩
    | useStdin => exact huseStdin.1 ⟨_, h.useStdin⟩
    | timeout => exact htimeout.1 ⟨_, h.timeout⟩
  · intro h
    obtain ⟨path, hpath⟩ := hpath.2 (h .path)
    obtain ⟨extraArgs, hextraArgs⟩ := hextraArgs.2 (h .extraArgs)
    obtain ⟨maxWidth, hmaxWidth⟩ := hmaxWidth.2 (h .maxWidth)
    obtain ⟨useStdin, huseStdin⟩ := huseStdin.2 (h .useStdin)
    obtain ⟨timeout, htimeout⟩ := htimeout.2 (h .timeout)
    exact ⟨⟨path, extraArgs, maxWidth, useStdin, timeout⟩, hpath, hextraArgs, hmaxWidth, huseStdin,
      htimeout⟩

/-! ### Sections -/

/-- What a payload says of the formatter: under the name of the language, or bare. -/
def formatter? (payload : Json) : Option Json :=
  ((payload.member? "ron").getD payload).member? "formatter"

/-- What is said of the formatter can be read. -/
inductive Accepted : Option Json → Prop
  | absent : Accepted none
  | null : Accepted (some .null)
  | object {members : List (String × Json)}
      (h : ∀ setting : Setting, setting.Accepts (Json.lastMember? setting.key members)) :
      Accepted (some (.object members))
  | array {items : List Json} (hlength : items.length ≤ 5)
      (h : ∀ setting : Setting, setting.Accepts items[setting.place]?) :
      Accepted (some (.array items))

variable {payload other : Json} {c : Changes}

/-- A payload without a section, or with null for it, changes nothing, and any other is read by its
section. -/
theorem ofPayload_eq (payload : Json) :
    Changes.ofPayload payload = ((present? (formatter? payload)).map ofSection).getD (.ok {}) := by
  rw [Changes.ofPayload, section?, formatter?]
  generalize ((payload.member? "ron").getD payload).member? "formatter" = formatter
  cases formatter with
  | none => rfl
  | some home => cases home <;> rfl

/-- Only what is said of the formatter counts. -/
theorem ofPayload_eq_of_formatter?_eq (h : formatter? payload = formatter? other) :
    Changes.ofPayload payload = Changes.ofPayload other := by
  rw [ofPayload_eq, ofPayload_eq, h]

/-- A section that is an object is read by its keys. -/
theorem ofPayload_of_object {members : List (String × Json)}
    (h : formatter? payload = some (.object members)) :
    Changes.ofPayload payload = ofMembers (.object members) := by
  rw [ofPayload_eq, h]
  rfl

/-- A section that is an array is read by places. -/
theorem ofPayload_of_array {items : List Json} (h : formatter? payload = some (.array items)) :
    Changes.ofPayload payload = ofItems items := by
  rw [ofPayload_eq, h]
  rfl

/-- **A payload can be read just if what it says of the formatter can.** -/
theorem exists_ofPayload_eq_ok_iff :
    (∃ c, Changes.ofPayload payload = .ok c) ↔ Accepted (formatter? payload) := by
  cases h : formatter? payload with
  | none =>
    rw [ofPayload_eq, h]
    exact iff_of_true ⟨_, rfl⟩ .absent
  | some home =>
    cases home with
    | null =>
      rw [ofPayload_eq, h]
      exact iff_of_true ⟨_, rfl⟩ .null
    | object members =>
      simp only [ofPayload_of_object h, ofMembers_eq_ok_iff, exists_reads_iff]
      exact ⟨.object, fun | .object haccepts => haccepts⟩
    | array items =>
      simp only [ofPayload_of_array h, ofItems_eq_ok_iff, exists_and_left, exists_reads_iff]
      exact ⟨fun haccepts ↦ .array haccepts.1 haccepts.2,
        fun | .array hlength haccepts => ⟨hlength, haccepts⟩⟩
    -- A text, a number or a truth value is no section.
    | _ =>
      rw [ofPayload_eq, h]
      exact iff_of_false (by rintro ⟨c, hc⟩; cases hc) (by rintro ⟨⟩)

/-- **An array is read as the object that gives its items to the names in turn.** -/
theorem toOption_ofPayload_eq_of_zip {items : List Json} (hlength : items.length ≤ 5)
    (h : formatter? payload = some (.array items))
    (hother : formatter? other = some (.object (Setting.keys.zip items))) :
    (Changes.ofPayload payload).toOption = (Changes.ofPayload other).toOption := by
  have hslots : slot? (.object (Setting.keys.zip items)) = slot? (.array items) :=
    funext fun setting ↦ Json.lastMember?_zip Setting.nodup_keys setting.keys_place items
  refine Option.ext fun c ↦ ?_
  rw [toOption_eq_some, toOption_eq_some, ofPayload_of_array h, ofPayload_of_object hother,
    ofItems_eq_ok_iff, ofMembers_eq_ok_iff, hslots]
  exact and_iff_right hlength

/-- **Only the members under the names of the settings count**, for the faults as well. -/
theorem ofPayload_eq_of_keys {members others : List (String × Json)}
    (h : formatter? payload = some (.object members))
    (hother : formatter? other = some (.object others))
    (hkeys : ∀ key ∈ Setting.keys,
      Json.lastMember? key members = Json.lastMember? key others) :
    Changes.ofPayload payload = Changes.ofPayload other := by
  rw [ofPayload_of_object h, ofPayload_of_object hother]
  simp (disch := decide) only [ofMembers, Json.member?, hkeys]

end Payload

/--
**Payloads are accepted just if they are well typed, in both shapes.** A payload can be read just if
it says nothing of the formatter, or null, or gives an object or an array of at most five items in
which each setting finds nothing, a null or a value of its own kind and range. What is read then
carries just the values given that are not null. An array is read as the object that gives its items
to the names of the settings in turn, or both are refused. Nothing else in a payload counts:
payloads that say the same of the formatter are read alike, and so are two objects that have the
same under the names of the settings, whatever else is in them.
-/
theorem ofPayload_accepts (payload : Json) :
    ((∃ c, Changes.ofPayload payload = .ok c) ↔ Payload.Accepted (Payload.formatter? payload)) ∧
    (∀ c, Changes.ofPayload payload = .ok c →
      ∀ setting, c.value? setting = Payload.carried? payload setting) ∧
    (∀ (items : List Json) (other : Json), items.length ≤ 5 →
      Payload.formatter? payload = some (.array items) →
      Payload.formatter? other = some (.object (Setting.keys.zip items)) →
        (Changes.ofPayload payload).toOption = (Changes.ofPayload other).toOption) ∧
    (∀ other : Json, Payload.formatter? payload = Payload.formatter? other →
      Changes.ofPayload payload = Changes.ofPayload other) ∧
    ∀ (members others : List (String × Json)) (other : Json),
      Payload.formatter? payload = some (.object members) →
      Payload.formatter? other = some (.object others) →
      (∀ key ∈ Setting.keys, Json.lastMember? key members = Json.lastMember? key others) →
        Changes.ofPayload payload = Changes.ofPayload other :=
  ⟨Payload.exists_ofPayload_eq_ok_iff, fun _ h ↦ Payload.value?_of_ofPayload h,
    fun _ _ ↦ Payload.toOption_ofPayload_eq_of_zip, fun _ ↦ Payload.ofPayload_eq_of_formatter?_eq,
    fun _ _ _ ↦ Payload.ofPayload_eq_of_keys⟩

/--
A path and a width are read from an array under the name of the language, and from a bare object in
which they stand in another order, among other members. A width of more than 32 bits is refused.
-/
theorem ofPayload_accepts_array_and_object :
    Changes.ofPayload (.object [("ron", .object [("formatter",
      .array [.string "fmtron", .null, .integer 80])])]) =
        .ok { path := some "fmtron", maxWidth := some 80 } ∧
    Changes.ofPayload (.object [("formatter", .object [("maxWidth", .integer 80),
      ("indent", .string "tab"), ("extraArgs", .null), ("path", .string "fmtron")])]) =
        .ok { path := some "fmtron", maxWidth := some 80 } ∧
    ¬∃ c, Changes.ofPayload (.object [("formatter",
      .object [("maxWidth", .integer 4294967296)])]) = .ok c := by
  obtain ⟨-, -, hshapes, -, -⟩ := ofPayload_accepts (.object [("ron", .object [("formatter",
    .array [.string "fmtron", .null, .integer 80])])])
  have hshapes := hshapes _ (.object [("formatter",
    .object (Setting.keys.zip [.string "fmtron", .null, .integer 80]))]) (by decide) rfl rfl
  obtain ⟨-, -, -, -, hkeys⟩ := ofPayload_accepts (.object [("formatter",
    .object (Setting.keys.zip [.string "fmtron", .null, .integer 80]))])
  have hkeys := hkeys _ _ (.object [("formatter", .object [("maxWidth", .integer 80),
    ("indent", .string "tab"), ("extraArgs", .null), ("path", .string "fmtron")])]) rfl rfl
    (by simp [Setting.keys, Setting.all, Setting.key, Json.lastMember?])
  refine ⟨rfl, toOption_eq_some.1 (hkeys ▸ hshapes).symm, ?_⟩
  rw [(ofPayload_accepts _).1]
  rintro ⟨⟩
  next h =>
    obtain h | h | ⟨j, h, n, rfl, -, hlt⟩ := h .maxWidth
    · cases h
    · cases h
    · cases h
      exact absurd hlt (by decide)

end Settings

end RonWorkbench
