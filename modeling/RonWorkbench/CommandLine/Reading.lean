import RonWorkbench.Bits
import RonWorkbench.CommandLine.Basic

/-!
# Reading a command line

A line is read word by word. The first word names the command, the others are the command's options
and its path. A value can follow its option as the next word or be attached to it (`--name=value`,
`-nvalue`, `-n=value`); after a word `--` all words are plain.

An option that awaits its value, or has just been given one, is not looked at before the next
option, the next plain word or the end of the line (`Reading.settle`). So a word that has no place
at all is reported before a wrong value that stands before it.
-/

namespace RonWorkbench.CommandLine

/-! ### Words -/

/-- A word as it looks. -/
inductive Word
  /-- Two dashes. -/
  | separator
  /-- A name after two dashes, perhaps with a value after `=`. -/
  | long (name : String) (value : Option String)
  /-- Letters after one dash. -/
  | short (letters : List Char)
  /-- Any other word. -/
  | plain
  deriving Repr, DecidableEq

/-- A long option's name and the value attached to it. -/
def splitLong : List Char → List Char × Option (List Char)
  | [] => ([], none)
  | '=' :: value => ([], some value)
  | c :: rest =>
    let (name, value) := splitLong rest
    (c :: name, value)

/-- How a word looks. -/
def Word.of (word : String) : Word :=
  match word.toList with
  | ['-', '-'] => separator
  | '-' :: '-' :: rest =>
    let (name, value) := splitLong rest
    long (String.ofList name) (value.map String.ofList)
  | '-' :: c :: rest => short (c :: rest)
  | _ => plain

/-! ### Values -/

/-- The largest number that can be given. -/
def largestCount : Nat := Bits.wordCount 32 - 1

/-- A whole number in decimal digits, with a sign if it is wanted. -/
def readInteger? (value : String) : Option Int :=
  let digits (cs : List Char) : Option Nat :=
    if !cs.isEmpty && cs.all Char.isDigit then
      some (cs.foldl (fun n c ↦ 10 * n + (c.toNat - '0'.toNat)) 0)
    else
      none
  match value.toList with
  | '+' :: cs => (digits cs).map Int.ofNat
  | '-' :: cs => (digits cs).map fun n ↦ -(n : Int)
  | cs => (digits cs).map Int.ofNat

/-- A count in range. -/
def readCount (flag : Flag) (value : String) : Except UsageFault Nat :=
  match readInteger? value with
  | some n => if 0 ≤ n ∧ n ≤ largestCount then .ok n.toNat else .error (.badNumber flag value)
  | none => .error (.badNumber flag value)

/-- The listing of a name. -/
def readListing (value : String) : Except UsageFault ListingFormat :=
  (ListingFormat.parse value).mapError fun _ ↦ .unknownChoice .listing value

/-! ### What has been read -/

/-- What the words of a command have said so far. -/
structure Draft where
  path : Option String := none
  listing : Option ListingFormat := none
  rewrite : Bool := false
  check : Bool := false
  config : Option String := none
  flags : Settings.Flags := {}
  deriving Repr, DecidableEq

namespace Draft

/-- An option has been given. -/
def has (d : Draft) : Flag → Bool
  | .help | .version => false
  | .listing => d.listing.isSome
  | .rewrite => d.rewrite
  | .check => d.check
  | .config => d.config.isSome
  | .formatter => d.flags.program.isSome
  | .stdinMode => d.flags.stdinMode
  | .tabSize => d.flags.tabSize.isSome
  | .maxWidth => d.flags.maxWidth.isSome

/-- Put an option that has not been given before; those without a value are given an empty one. -/
def put (d : Draft) (flag : Flag) (value : String) : Except UsageFault Draft :=
  match flag with
  | .help | .version => .ok d
  | .listing => do return { d with listing := some (← readListing value) }
  | .rewrite => .ok { d with rewrite := true }
  | .check => .ok { d with check := true }
  | .config => .ok { d with config := some value }
  | .formatter => .ok { d with flags := { d.flags with program := some value } }
  | .stdinMode => .ok { d with flags := { d.flags with stdinMode := true } }
  | .tabSize => do
    return { d with flags := { d.flags with tabSize := some (← readCount flag value) } }
  | .maxWidth => do
    return { d with flags := { d.flags with maxWidth := some (← readCount flag value) } }

/-- Give an option; none can be given twice. -/
def give (d : Draft) (flag : Flag) (value : String) : Except UsageFault Draft :=
  if d.has flag then .error (.repeated flag) else d.put flag value

end Draft

/-- Why the reading of a line ends early. -/
inductive Stop
  | help (topic : Topic)
  | version
  | fault (fault : UsageFault)

/-- The state of a reading. -/
structure Reading where
  draft : Draft := {}
  /-- The option that came last and has not been looked at, with its value once that is there. -/
  waiting : Option (Flag × Option String) := none
  /-- All further words are plain. -/
  plainOnly : Bool := false

namespace Reading

/-- A fault ends the reading. -/
def fail {α : Type} (fault : UsageFault) : Except Stop α :=
  .error (.fault fault)

/-- Look at the option that came last. -/
def settle (r : Reading) : Except Stop Reading :=
  match r.waiting with
  | none => .ok r
  | some (flag, none) => fail (.missingValue flag)
  | some (flag, some value) => do
    let draft ← (r.draft.give flag value).mapError .fault
    return { r with draft, waiting := none }

/-- An option that takes no value. -/
def takeSwitch (topic : Topic) (r : Reading) (flag : Flag) : Except Stop Reading := do
  let r ← r.settle
  match flag with
  | .help => throw (.help topic)
  | .version => throw .version
  | _ => do
    let draft ← (r.draft.give flag "").mapError .fault
    return { r with draft }

/-- An option with its value attached. -/
def takeAttached (r : Reading) (flag : Flag) (value : String) : Except Stop Reading := do
  let r ← r.settle
  let draft ← (r.draft.give flag value).mapError .fault
  return { r with draft }

/-- An option whose value is to follow. -/
def await (r : Reading) (flag : Flag) : Except Stop Reading := do
  let r ← r.settle
  return { r with waiting := some (flag, none) }

/-- A long option. -/
def takeLong (topic : Topic) (r : Reading) (word name : String) (value : Option String) :
    Except Stop Reading :=
  match topic.flagOfName? name with
  | none => fail (.unknownArgument word)
  | some flag =>
    match flag.takesValue, value with
    | true, some value => r.takeAttached flag value
    | true, none => r.await flag
    | false, some value => fail (.needlessValue flag value)
    | false, none => r.takeSwitch topic flag

/-- Letters after one dash; one that takes a value takes what is left of the word. -/
def takeLetters (topic : Topic) (r : Reading) : List Char → Except Stop Reading
  | [] => .ok r
  | c :: rest =>
    match topic.flagOfLetter? c with
    | none => fail (.unknownArgument (String.ofList ['-', c]))
    | some flag =>
      if flag.takesValue then
        match rest with
        | [] => r.await flag
        | '=' :: value => r.takeAttached flag (String.ofList value)
        | value => r.takeAttached flag (String.ofList value)
      else do
        let r ← r.takeSwitch topic flag
        r.takeLetters topic rest

/-- A plain word: the value that is awaited or else the path; there is no place for a second one. -/
def takePlain (r : Reading) (word : String) : Except Stop Reading :=
  match r.plainOnly, r.waiting, r.draft.path with
  | false, some (flag, none), _ => .ok { r with waiting := some (flag, some word) }
  | _, _, some _ => fail (.unknownArgument word)
  | _, _, none => do
    let r ← r.settle
    return { r with draft := { r.draft with path := some word } }

/-- One word. -/
def take (topic : Topic) (r : Reading) (word : String) : Except Stop Reading :=
  if r.plainOnly then
    r.takePlain word
  else
    match Word.of word with
    | .separator => .ok { r with plainOnly := true }
    | .long name value => r.takeLong topic word name value
    | .short letters => r.takeLetters topic letters
    | .plain => r.takePlain word

end Reading

/-- Read the words behind a command. -/
def readDraft (topic : Topic) (words : List String) : Except Stop Draft := do
  let r ← words.foldlM (Reading.take topic) {}
  return (← r.settle).draft

/-- The tokens command as asked for. -/
def readTokens (words : List String) : Except Stop Invocation := do
  let d ← readDraft .tokens words
  match d.path with
  | some path => return .tokens path d.listing
  | none => throw (.fault .noPath)

/-- The format command as asked for. -/
def readFormat (words : List String) : Except Stop Invocation := do
  let d ← readDraft .format words
  if d.rewrite && d.check then
    throw (.fault (.exclusive .rewrite .check))
  match d.path with
  | some path =>
    let delivery := if d.rewrite then .rewrite else if d.check then .check else .print
    return .format { path, delivery, config := d.config, flags := d.flags }
  | none => throw (.fault .noPath)

/-- What a request for help is about. -/
def readHelp : List String → Except Stop Invocation
  | [] => .ok (.help .tool)
  | [word] =>
    match Topic.ofCommand? word with
    | some topic => .ok (.help topic)
    | none => .error (.fault (.unknownCommand word))
  | first :: second :: _ =>
    .error (.fault (.unknownCommand (if (Topic.ofCommand? first).isSome then second else first)))

/-- Read a line that does not begin with a command. -/
def readTool (word : String) (rest : List String) : Except Stop Invocation :=
  match Word.of word with
  | .separator =>
    match rest with
    | [] => .error (.fault .nothingAsked)
    | next :: _ =>
      if (Topic.ofCommand? next).isSome then
        .error (.fault (.unknownArgument next))
      else
        .error (.fault (.unknownCommand next))
  | .plain => .error (.fault (.unknownCommand word))
  | _ => do
    let _ ← Reading.take .tool {} word
    throw (.fault .nothingAsked)

/-- Read a line up to where its reading ends. -/
def readLine : List String → Except Stop Invocation
  | [] => .error (.fault .nothingAsked)
  | word :: rest =>
    match Topic.ofCommand? word with
    | some .tokens => readTokens rest
    | some .format => readFormat rest
    | some _ => readHelp rest
    | none => readTool word rest

/-- What a line asks for. -/
def read (words : List String) : Except UsageFault Invocation :=
  match readLine words with
  | .ok invocation => .ok invocation
  | .error (.help topic) => .ok (.help topic)
  | .error .version => .ok .version
  | .error (.fault fault) => .error fault

end RonWorkbench.CommandLine
