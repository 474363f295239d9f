import RonWorkbench.Proofs.Fallible
import RonWorkbench.Settings.Payload

/-!
# What a payload carries

What a payload changes is told from the payload itself: the value that stands for a setting in its
section, under the setting's name in an object or at its place in an array, where a null stands for
none (`Payload.carried?`). A payload that can be read changes just the settings that it carries,
each to the value carried (`Payload.value?_of_ofPayload`). So what payloads in a row leave in a
setting is what the last of them carries that can be read and carries anything for it
(`value_foldl_take`).

The settings are a type of their own (`Setting`), and settings are compared as values that an editor
could send (`FormatterSettings.value`), so that what holds of each of them is stated once.
-/

namespace RonWorkbench.Settings

open Fallible

/-- The settings that an editor can send. -/
inductive Setting
  | path
  | extraArgs
  | maxWidth
  | useStdin
  | timeout
  deriving Repr, DecidableEq

namespace Setting

/-- The name of a setting in a section that is an object. -/
def key : Setting → String
  | path => "path"
  | extraArgs => "extraArgs"
  | maxWidth => "maxWidth"
  | useStdin => "useStdin"
  | timeout => "timeoutMs"

/-- The place of a setting in a section that is an array. -/
def place : Setting → Nat
  | path => 0
  | extraArgs => 1
  | maxWidth => 2
  | useStdin => 3
  | timeout => 4

end Setting

/-- A list of texts as a value. -/
def textsValue (texts : List String) : Json :=
  .array (texts.map Json.string)

/-- A setting as an editor would send it. -/
def FormatterSettings.value (s : FormatterSettings) : Setting → Json
  | .path => .string s.path
  | .extraArgs => textsValue s.extraArgs
  | .maxWidth => .nat s.maxWidth
  | .useStdin => .bool s.useStdin
  | .timeout => .nat s.timeout

/-- What a setting is changed to, as an editor would send it. -/
def Changes.value? (c : Changes) : Setting → Option Json
  | .path => c.path.map Json.string
  | .extraArgs => c.extraArgs.map textsValue
  | .maxWidth => c.maxWidth.map Json.nat
  | .useStdin => c.useStdin.map Json.bool
  | .timeout => c.timeout.map Json.nat

/-- A setting that is changed has its new value, and any other keeps its own. -/
theorem Changes.value_apply (c : Changes) (s : FormatterSettings) (setting : Setting) :
    (c.apply s).value setting = (c.value? setting).getD (s.value setting) := by
  cases setting with
  | path => cases h : c.path <;> simp [apply, FormatterSettings.value, value?, h]
  | extraArgs => cases h : c.extraArgs <;> simp [apply, FormatterSettings.value, value?, h]
  | maxWidth => cases h : c.maxWidth <;> simp [apply, FormatterSettings.value, value?, h]
  | useStdin => cases h : c.useStdin <;> simp [apply, FormatterSettings.value, value?, h]
  | timeout => cases h : c.timeout <;> simp [apply, FormatterSettings.value, value?, h]

namespace Payload

/-- A value that is there and is not null. -/
def present? : Option Json → Option Json
  | none | some .null => none
  | some j => some j

/-- What stands in a section for a setting. -/
def slot? (home : Json) (setting : Setting) : Option Json :=
  match home with
  | .object members => Json.lastMember? setting.key members
  | .array items => items[setting.place]?
  | _ => none

/-- What a payload carries for a setting. -/
def carried? (payload : Json) (setting : Setting) : Option Json :=
  (section? payload).bind fun home ↦ present? (slot? home setting)

/-! ### Values are read as they stand -/

theorem eq_string_of_text {j : Json} {s : String} (h : text j = .ok s) : j = .string s := by
  cases j <;> simp_all [text]

theorem eq_bool_of_truth {j : Json} {b : Bool} (h : truth j = .ok b) : j = .bool b := by
  cases j <;> simp_all [truth]

theorem eq_nat_of_count {bits : Nat} {wanted : String} {j : Json} {n : Nat}
    (h : count bits wanted j = .ok n) : j = .nat n := by
  cases j with
  | integer m =>
    rw [count] at h
    split at h
    · next hm =>
      obtain rfl : m.toNat = n := by simpa using h
      rw [Json.nat, Int.toNat_of_nonneg hm.1]
    · simp at h
  | _ => simp [count] at h

theorem eq_textsValue_of_texts {j : Json} {l : List String} (h : texts j = .ok l) :
    j = textsValue l := by
  cases j with
  | array items =>
    rw [textsValue, Json.array.injEq]
    rw [texts] at h
    induction items generalizing l with
    | nil =>
      obtain rfl : [] = l := by simpa using h
      rfl
    | cons item more ih =>
      rw [List.mapM_cons] at h
      obtain ⟨s, hs, h⟩ := bind_eq_ok.1 h
      obtain ⟨rest, hrest, h⟩ := bind_eq_ok.1 h
      obtain rfl : s :: rest = l := by simpa using h
      rw [List.map_cons, eq_string_of_text hs, ih hrest]
  | _ => simp [texts] at h

/-- A value that may be absent is read as it stands if it's there. -/
theorem map_of_optional {α : Type} {read : Json → Except PayloadFault α} {write : α → Json}
    (hread : ∀ j a, read j = .ok a → j = write a) {member : Option Json} {o : Option α}
    (h : optional read member = .ok o) : o.map write = present? member := by
  unfold optional at h
  split at h
  · obtain rfl : none = o := by simpa using h
    rfl
  · obtain rfl : none = o := by simpa using h
    rfl
  · next j hne =>
    obtain ⟨a, ha, rfl⟩ := map_eq_ok.1 h
    obtain rfl := hread j a ha
    simp [present?]

/-! ### Sections -/

/-- Each value is read from its slot. -/
structure Reads (slot : Setting → Option Json) (c : Changes) : Prop where
  path : Payload.path (slot .path) = .ok c.path
  extraArgs : Payload.extraArgs (slot .extraArgs) = .ok c.extraArgs
  maxWidth : Payload.maxWidth (slot .maxWidth) = .ok c.maxWidth
  useStdin : Payload.useStdin (slot .useStdin) = .ok c.useStdin
  timeout : Payload.timeout (slot .timeout) = .ok c.timeout

/-- However the values are found, each is read as it stands. -/
theorem Reads.value?_eq {slot : Setting → Option Json} {c : Changes} (h : Reads slot c)
    (setting : Setting) : c.value? setting = present? (slot setting) := by
  cases setting with
  | path => exact map_of_optional (fun _ _ ↦ eq_string_of_text) h.path
  | extraArgs => exact map_of_optional (fun _ _ ↦ eq_textsValue_of_texts) h.extraArgs
  | maxWidth => exact map_of_optional (fun _ _ ↦ eq_nat_of_count) h.maxWidth
  | useStdin => exact map_of_optional (fun _ _ ↦ eq_bool_of_truth) h.useStdin
  | timeout => exact map_of_optional (fun _ _ ↦ eq_nat_of_count) h.timeout

/-- Named members are read in an order of their own, but each is read. -/
theorem ofMembers_eq_ok_iff {members : List (String × Json)} {c : Changes} :
    ofMembers (.object members) = .ok c ↔ Reads (slot? (.object members)) c := by
  constructor
  · intro h
    obtain ⟨extraArgs, hextraArgs, h⟩ := bind_eq_ok.1 h
    obtain ⟨maxWidth, hmaxWidth, h⟩ := bind_eq_ok.1 h
    obtain ⟨path, hpath, h⟩ := bind_eq_ok.1 h
    obtain ⟨timeout, htimeout, h⟩ := bind_eq_ok.1 h
    obtain ⟨useStdin, huseStdin, h⟩ := bind_eq_ok.1 h
    obtain rfl : ⟨path, extraArgs, maxWidth, useStdin, timeout⟩ = c := by simpa using h
    exact ⟨hpath, hextraArgs, hmaxWidth, huseStdin, htimeout⟩
  · intro h
    exact bind_eq_ok.2 ⟨_, h.extraArgs, bind_eq_ok.2 ⟨_, h.maxWidth, bind_eq_ok.2 ⟨_, h.path,
      bind_eq_ok.2 ⟨_, h.timeout, bind_eq_ok.2 ⟨_, h.useStdin, rfl⟩⟩⟩⟩⟩

/-- Items are read in their order, and there may be no more of them than there are settings. -/
theorem ofItems_eq_ok_iff {items : List Json} {c : Changes} :
    ofItems items = .ok c ↔ items.length ≤ 5 ∧ Reads (slot? (.array items)) c := by
  constructor
  · intro h
    obtain ⟨path, hpath, h⟩ := bind_eq_ok.1 h
    obtain ⟨extraArgs, hextraArgs, h⟩ := bind_eq_ok.1 h
    obtain ⟨maxWidth, hmaxWidth, h⟩ := bind_eq_ok.1 h
    obtain ⟨useStdin, huseStdin, h⟩ := bind_eq_ok.1 h
    obtain ⟨timeout, htimeout, h⟩ := bind_eq_ok.1 h
    split at h
    · cases h
    · next hlength =>
      obtain rfl : ⟨path, extraArgs, maxWidth, useStdin, timeout⟩ = c := by simpa using h
      exact ⟨Nat.le_of_not_lt hlength, hpath, hextraArgs, hmaxWidth, huseStdin, htimeout⟩
  · rintro ⟨hlength, h⟩
    refine bind_eq_ok.2 ⟨_, h.path, bind_eq_ok.2 ⟨_, h.extraArgs, bind_eq_ok.2 ⟨_, h.maxWidth,
      bind_eq_ok.2 ⟨_, h.useStdin, bind_eq_ok.2 ⟨_, h.timeout, ?_⟩⟩⟩⟩⟩
    rw [if_neg (Nat.not_lt.2 hlength)]
    rfl

theorem value?_of_ofSection {home : Json} {c : Changes} (h : ofSection home = .ok c)
    (setting : Setting) : c.value? setting = present? (slot? home setting) := by
  cases home with
  | object members => exact (ofMembers_eq_ok_iff.1 h).value?_eq setting
  | array items => exact (ofItems_eq_ok_iff.1 h).2.value?_eq setting
  | _ => cases h

/-- **A payload that can be read changes each setting to what it carries for it.** -/
theorem value?_of_ofPayload {payload : Json} {c : Changes}
    (h : Changes.ofPayload payload = .ok c) (setting : Setting) :
    c.value? setting = carried? payload setting := by
  unfold Changes.ofPayload at h
  unfold carried?
  split at h
  · next hnone =>
    obtain rfl : {} = c := by simpa using h
    rw [hnone]
    cases setting <;> rfl
  · next home hhome =>
    rw [hhome]
    exact value?_of_ofSection h setting

end Payload

/-! ### Payloads one after another -/

/-- The settings with what a payload changes; one that cannot be read changes nothing. -/
def FormatterSettings.take (s : FormatterSettings) (payload : Json) : FormatterSettings :=
  match Changes.ofPayload payload with
  | .ok changes => changes.apply s
  | .error _ => s

namespace Payload

/-- What a payload puts in place of a setting: what it carries, if all of it can be read. -/
def written? (setting : Setting) (payload : Json) : Option Json :=
  match Changes.ofPayload payload with
  | .ok _ => carried? payload setting
  | .error _ => none

/-- What the last payload puts in place that puts anything in place of a setting. -/
def lastWritten? (setting : Setting) (payloads : List Json) : Option Json :=
  payloads.reverse.findSome? (written? setting)

end Payload

open Payload (written? lastWritten?)

variable (s : FormatterSettings)

/-- A setting is what a payload puts in place, or else what it was. -/
theorem value_take (payload : Json) (setting : Setting) :
    (s.take payload).value setting = (written? setting payload).getD (s.value setting) := by
  cases h : Changes.ofPayload payload with
  | ok changes =>
    simp only [FormatterSettings.take, written?, h]
    rw [Changes.value_apply, Payload.value?_of_ofPayload h]
  | error fault => simp only [FormatterSettings.take, written?, h, Option.getD_none]

/-- **Payloads in a row leave in each setting what was put there last.** -/
theorem value_foldl_take (payloads : List Json) (setting : Setting) :
    (payloads.foldl FormatterSettings.take s).value setting =
      (lastWritten? setting payloads).getD (s.value setting) := by
  induction payloads generalizing s with
  | nil => rfl
  | cons payload more ih =>
    rw [List.foldl_cons, ih, value_take, lastWritten?, lastWritten?, List.reverse_cons,
      List.findSome?_append]
    cases more.reverse.findSome? (written? setting) <;> simp

/-- What an editor does not send is never changed. -/
theorem unsent_foldl_take (payloads : List Json) :
    (payloads.foldl FormatterSettings.take s).tabSize = s.tabSize ∧
      (payloads.foldl FormatterSettings.take s).outputLimit = s.outputLimit := by
  induction payloads generalizing s with
  | nil => exact ⟨rfl, rfl⟩
  | cons payload more ih =>
    have htake : (s.take payload).tabSize = s.tabSize ∧
        (s.take payload).outputLimit = s.outputLimit := by
      unfold FormatterSettings.take
      split <;> exact ⟨rfl, rfl⟩
    obtain ⟨htabSize, hlimit⟩ := ih (s.take payload)
    exact ⟨htabSize.trans htake.1, hlimit.trans htake.2⟩

end RonWorkbench.Settings
