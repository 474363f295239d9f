import RonWorkbench.Bits
import RonWorkbench.Decimal.Shortest
import RonWorkbench.Settings.Basic
import RonWorkbench.Settings.Layers
import RonWorkbench.Text.Quoted

/-!
# Typed settings from layered values

The merged layers are read as settings with the types that they have. Reading is lenient: numbers
and truth values are also read from text and from each other, text from any value without parts,
and an array may stand for a record with its values in order. What cannot be read is reported with
the key that leads to it and the file that it came from.
-/

namespace RonWorkbench.Settings

/-- Why layered values are no settings. -/
inductive TypedFault
  /-- A value without a reading as what is wanted. -/
  | wrongType (found wanted key : String) (origin : Option String)
  /-- A value of another shape than wanted. -/
  | wrongShape (found wanted : String)
  /-- An array that ends before all values of a record are read. -/
  | tooShort (length : Nat) (record : String) (wanted : Nat)
  /-- A record without one of its values. -/
  | missing (key : String)
  /-- A listing that does not exist. -/
  | unknownListing (name : String)
  /-- A value that names no listing at all. -/
  | noListing

namespace TypedFault

/-- The fault in words. -/
def message : TypedFault → String
  | wrongType found wanted key origin =>
    let place := if key.isEmpty then "" else s!" for key `{key}`"
    let file := (origin.map fun o ↦ s!" in {o}").getD ""
    s!"invalid type: {found}, expected {wanted}{place}{file}"
  | wrongShape found wanted => s!"invalid type: {found}, expected {wanted}"
  | tooShort length record wanted =>
    let elements := if wanted = 1 then "element" else "elements"
    s!"invalid length {length}, expected struct {record} with {wanted} {elements}"
  | missing key => s!"missing configuration field {Text.quoted key}"
  | unknownListing name => s!"enum TokenFormat does not have variant constructor {name}"
  | noListing =>
    "value of enum TokenFormat should be represented by either string or table with exactly one key"

/-- The key of a fault seen from outside a value: a point joins two names. -/
def joinKey (step key : String) : String :=
  if key.isEmpty ∨ key.toList.head? = some '[' then step ++ key else step ++ "." ++ key

/-- A fault seen from outside the member with a name. -/
def within (name : String) : TypedFault → TypedFault
  | wrongType found wanted key origin => wrongType found wanted (joinKey name key) origin
  | missing key => missing (joinKey name key)
  | fault => fault

/-- A fault seen from outside the item at a place. -/
def withinItem (place : Nat) (fault : TypedFault) : TypedFault :=
  fault.within s!"[{place}]"

end TypedFault

/-! ### Descriptions -/

/-- A value as the fault of a wrong type names it. -/
def describe : Value → String
  | .scalar _ .nothing => "unit value"
  | .scalar _ (.bool b) => s!"boolean `{b}`"
  | .scalar _ (.integer n) => s!"64-bit integer `{n}`"
  | .scalar _ (.natural n) => s!"64-bit unsigned integer `{n}`"
  | .scalar _ (.float x) => s!"floating point `{Decimal.plain x}`"
  | .scalar _ (.string s) => s!"string {Text.quoted s}"
  | .array _ _ => "sequence"
  | .table _ _ => "map"

/-- A value as the fault of a wrong shape names it. -/
def describeShape : Value → String
  | .scalar _ (.integer n) => s!"integer `{n}`"
  | .scalar _ (.natural n) => s!"integer `{n}`"
  | .scalar _ (.float x) => s!"floating point `{Decimal.pointed x}`"
  | other => describe other

/-- The file that a value came from. -/
def originOf : Value → Option String
  | .scalar origin _ | .array origin _ | .table origin _ => origin

/-- A value without a reading. -/
def refuse {α : Type} (v : Value) (wanted : String) : Except TypedFault α :=
  .error (.wrongType (describe v) wanted "" (originOf v))

/-! ### Readings -/

/-- The truth value that a word in lower case stands for. -/
def wordTruth? (word : String) : Option Bool :=
  if word = "true" ∨ word = "on" ∨ word = "yes" then some true
  else if word = "false" ∨ word = "off" ∨ word = "no" then some false
  else none

/-- A truth value. -/
def asBool (v : Value) : Except TypedFault Bool :=
  match v with
  | .scalar _ (.bool b) => .ok b
  | .scalar _ (.integer n) => .ok (n != 0)
  | .scalar _ (.natural n) => .ok (n != 0)
  | .scalar _ (.float x) => .ok (x != 0.0)
  | .scalar origin (.string s) =>
    let word := foldName s
    match wordTruth? word with
    | some b => .ok b
    | none =>
      if word = "1" then .ok true
      else if word = "0" then .ok false
      else refuse (.scalar origin (.string word)) "a boolean"
  | other => refuse other "a boolean"

/-- One past the largest 64-bit count. -/
def countLimit : Nat := Bits.wordCount 64

/-- The count that a text stands for: decimal digits, a plus in front allowed. -/
def textCount? (s : String) : Option Nat :=
  let digits : List Char :=
    match s.toList with
    | '+' :: rest => rest
    | unsigned => unsigned
  let n := digits.foldl (fun n c ↦ n * 10 + (c.toNat - '0'.toNat)) 0
  if !digits.isEmpty && digits.all Char.isDigit && decide (n < countLimit) then some n else none

/-- The whole number nearest to a float, halves away from zero, within the range of counts. -/
def floatCount (x : Float) : Nat :=
  x.round.toUInt64.toNat

/-- A count of 64 bits. -/
def asCount (v : Value) : Except TypedFault Nat :=
  match v with
  | .scalar _ (.natural n) => .ok n
  | .scalar _ (.integer n) =>
    if 0 ≤ n then .ok n.toNat else refuse v "an unsigned 64 bit or less integer"
  | .scalar _ (.bool b) => .ok b.toNat
  | .scalar _ (.float x) => .ok (floatCount x)
  | .scalar _ (.string s) =>
    match wordTruth? (foldName s) with
    | some b => .ok b.toNat
    | none =>
      match textCount? s with
      | some n => .ok n
      | none => refuse v "an integer"
  | other => refuse other "an integer"

/-- A count of 32 bits. -/
def asSmallCount (v : Value) : Except TypedFault Nat := do
  let n ← asCount v
  if n < Bits.wordCount 32 then
    return n
  else
    refuse (.scalar none (.natural n)) "an unsigned 32 bit integer"

/-- A text. -/
def asText (v : Value) : Except TypedFault String :=
  match v with
  | .scalar _ (.string s) => .ok s
  | .scalar _ (.bool b) => .ok (toString b)
  | .scalar _ (.integer n) => .ok (toString n)
  | .scalar _ (.natural n) => .ok (toString n)
  | .scalar _ (.float x) => .ok (Decimal.plain x)
  | other => refuse other "a string"

/-- Items read one after another, a fault with its place. -/
def asItems {α : Type} (read : Value → Except TypedFault α) :
    Nat → List Value → Except TypedFault (List α)
  | _, [] => .ok []
  | place, v :: more => do
    let a ← (read v).mapError (TypedFault.withinItem place)
    return a :: (← asItems read (place + 1) more)

/-- A list of texts. -/
def asTexts (v : Value) : Except TypedFault (List String) :=
  match v with
  | .array _ items => asItems asText 0 items
  | other => .error (.wrongShape (describeShape other) "a sequence")

/-- The listing of a name, in any case. -/
def listingOf (name : String) : Except TypedFault ListingFormat :=
  match ListingFormat.parse (foldName name) with
  | .ok f => .ok f
  | .error _ => .error (.unknownListing name)

/-- A listing: its name, or a table with its name as the one key. -/
def asListing (v : Value) : Except TypedFault ListingFormat :=
  match v with
  | .scalar _ (.string s) => listingOf s
  | .table _ [(name, _)] => listingOf name
  | _ => .error .noListing

/-! ### Records -/

/-- A value with the parts of a record: a table has them by name, an array by place. -/
inductive Record
  | named (members : List (String × Value))
  | placed (items : List Value)

/-- The record that a value stands for. -/
def asRecord (name : String) (v : Value) : Except TypedFault Record :=
  match v with
  | .table _ members => .ok (.named members)
  | .array _ items => .ok (.placed items)
  | other => .error (.wrongShape (describeShape other) s!"struct {name}")

/-- A part of a record with its name, its place and the number of all parts. -/
def part {α : Type} (r : Record) (record : String) (wanted : Nat) (place : Nat) (name : String)
    (read : Value → Except TypedFault α) : Except TypedFault α :=
  match r with
  | .named members =>
    match members.lookup name with
    | some v => (read v).mapError (TypedFault.within name)
    | none => .error (.missing name)
  | .placed items =>
    match items[place]? with
    | some v => (read v).mapError (TypedFault.withinItem place)
    | none => .error (.tooShort place record wanted)

/-- The formatter's settings. -/
def asFormatter (v : Value) : Except TypedFault FormatterSettings := do
  let r ← asRecord "FormatterConfig" v
  let part {α : Type} := part (α := α) r "FormatterConfig" 7
  let path ← part 0 "path" asText
  let extraArgs ← part 1 "extra_args" asTexts
  let maxWidth ← part 2 "max_width" asSmallCount
  let tabSize ← part 3 "tab_size" asSmallCount
  let useStdin ← part 4 "use_stdin" asBool
  let timeout ← part 5 "timeout_ms" asCount
  let outputLimit ← part 6 "max_output_bytes" asCount
  return { path, extraArgs, maxWidth, tabSize, useStdin, timeout, outputLimit }

/-- The settings of listings. -/
def asTokens (v : Value) : Except TypedFault ListingFormat := do
  let r ← asRecord "TokensConfig" v
  part r "TokensConfig" 1 0 "format" asListing

/-- All settings. -/
def asConfiguration (v : Value) : Except TypedFault Configuration := do
  let r ← asRecord "RonConfig" v
  let formatter ← part r "RonConfig" 2 0 "formatter" asFormatter
  let listing ← part r "RonConfig" 2 1 "tokens" asTokens
  return { formatter, listing }

end RonWorkbench.Settings
