import RonWorkbench.Bits
import RonWorkbench.Json.Printer
import RonWorkbench.Settings.Basic
import RonWorkbench.Text.Quoted

/-!
# Settings sent by an editor

An editor sends its settings as JSON, for all languages or for this one alone: the section is
looked for under `ron` if there is such a member and in the payload itself otherwise. A section that
is missing or null changes nothing.

The section is an object with named members or an array with the same values in a fixed order. In
both a null stands for an absent value. Members are read in the order of their names, so the first
fault in that order is the one reported.
-/

namespace RonWorkbench.Settings

/-- What is wrong with a payload. -/
inductive PayloadFault
  /-- A value of another kind than wanted. -/
  | wrongType (found : Json) (wanted : String)
  /-- A number out of range. -/
  | outOfRange (found : Int) (wanted : String)
  /-- An array with more items than there are settings. -/
  | tooLong (length : Nat)

/-- A value as a message names it. -/
def describeJson : Json → String
  | .null => "null"
  | .bool b => s!"boolean `{b}`"
  | .integer n => s!"integer `{n}`"
  | .float x => s!"floating point `{Json.floatText x}`"
  | .string s => s!"string {Text.quoted s}"
  | .array _ => "sequence"
  | .object _ => "map"

/-- The fault in words. -/
def PayloadFault.message : PayloadFault → String
  | wrongType found wanted => s!"invalid type: {describeJson found}, expected {wanted}"
  | outOfRange found wanted => s!"invalid value: integer `{found}`, expected {wanted}"
  | tooLong length => s!"invalid length {length}, expected fewer elements in array"

namespace Payload

/-- A text. -/
def text : Json → Except PayloadFault String
  | .string s => .ok s
  | found => .error (.wrongType found "a string")

/-- A truth value. -/
def truth : Json → Except PayloadFault Bool
  | .bool b => .ok b
  | found => .error (.wrongType found "a boolean")

/-- A count of so many bits, which is named as wanted. -/
def count (bits : Nat) (wanted : String) : Json → Except PayloadFault Nat
  | .integer n =>
    if 0 ≤ n ∧ n < Bits.wordCount bits then .ok n.toNat else .error (.outOfRange n wanted)
  | found => .error (.wrongType found wanted)

/-- A list of texts. -/
def texts : Json → Except PayloadFault (List String)
  | .array items => items.mapM text
  | found => .error (.wrongType found "a sequence")

/-- A value that may be absent or null. -/
def optional {α : Type} (read : Json → Except PayloadFault α) :
    Option Json → Except PayloadFault (Option α)
  | none | some .null => .ok none
  | some j => (read j).map some

/-- The program's path. -/
def path : Option Json → Except PayloadFault (Option String) :=
  optional text

/-- The extra arguments. -/
def extraArgs : Option Json → Except PayloadFault (Option (List String)) :=
  optional texts

/-- The line width. -/
def maxWidth : Option Json → Except PayloadFault (Option Nat) :=
  optional (count 32 "u32")

/-- Whether the document is piped. -/
def useStdin : Option Json → Except PayloadFault (Option Bool) :=
  optional truth

/-- The time limit. -/
def timeout : Option Json → Except PayloadFault (Option Nat) :=
  optional (count 64 "u64")

/-- Named members, read in the order of their names. -/
def ofMembers (j : Json) : Except PayloadFault Changes := do
  let extraArgs ← extraArgs (j.member? "extraArgs")
  let maxWidth ← maxWidth (j.member? "maxWidth")
  let path ← path (j.member? "path")
  let timeout ← timeout (j.member? "timeoutMs")
  let useStdin ← useStdin (j.member? "useStdin")
  return { path, extraArgs, maxWidth, useStdin, timeout }

/-- Items in their fixed order; missing ones are absent. -/
def ofItems (items : List Json) : Except PayloadFault Changes := do
  let path ← path items[0]?
  let extraArgs ← extraArgs items[1]?
  let maxWidth ← maxWidth items[2]?
  let useStdin ← useStdin items[3]?
  let timeout ← timeout items[4]?
  if 5 < items.length then
    throw (.tooLong items.length)
  return { path, extraArgs, maxWidth, useStdin, timeout }

/-- The settings of a section. -/
def ofSection : Json → Except PayloadFault Changes
  | .object members => ofMembers (.object members)
  | .array items => ofItems items
  | found => .error (.wrongType found "struct FormatterOverrides")

/-- The section of a payload, if it has one. -/
def section? (payload : Json) : Option Json :=
  let home := (payload.member? "ron").getD payload
  match home.member? "formatter" with
  | none | some .null => none
  | some j => some j

end Payload

/-- The changes that a payload asks for. -/
def Changes.ofPayload (payload : Json) : Except PayloadFault Changes :=
  match Payload.section? payload with
  | none => .ok {}
  | some j => Payload.ofSection j

end RonWorkbench.Settings
