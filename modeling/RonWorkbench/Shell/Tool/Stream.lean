import RonWorkbench.Shell.Tool.Basic

/-!
# Tools that pass bytes on

Copying, cutting, counting and sorting: the tools that read their input or some files and print what
they make of it.
-/

namespace RonWorkbench.Shell.Tool

/-! ### Reading operands -/

/-- The operands, or the input if there are none. -/
def sources (operands : List Str) : List Str :=
  if operands.isEmpty then [['-']] else operands

/-- The name is that of the input. -/
def isInput (name : Str) : Bool :=
  name = ['-'] || name = "/dev/stdin".toList

/-- The contents of sources in order, and what is left of the input: it is read once. -/
def readAll (w : Workplace) : List Str → List (Str × Except PathFault Supply) × Supply
  | [] => ([], w.input)
  | name :: more =>
    let (contents, left) :=
      readAll (if isInput name then { w with input := w.input.drained } else w) more
    ((name, w.read name) :: contents, left)

/-- A complaint about a source that cannot be read. -/
def unread (tool : String) (name : Str) (fault : PathFault) : Str :=
  tool.toList ++ ": ".toList ++ name ++ ": ".toList ++ describe fault ++ ['\n']

/-- The complaints about those contents that are not there. -/
def complaintsOf (complaint : Str → PathFault → Str)
    (contents : List (Str × Except PathFault Supply)) : Str :=
  contents.flatMap fun (name, content) ↦
    match content with
    | .ok _ => []
    | .error fault => complaint name fault

/-- Those contents that are there. -/
def contentsOf (contents : List (Str × Except PathFault Supply)) : List (Str × Supply) :=
  contents.filterMap fun (name, content) ↦ content.toOption.map fun s ↦ (name, s)

/-- Print what a function makes of the contents of sources. -/
def through (w : Workplace) (tool : String) (operands : List Str) (f : Supply → Supply) : Work :=
  let (contents, input) := readAll w (sources operands)
  let complaints := complaintsOf (unread tool) contents
  let supply := ((contentsOf contents).map Prod.snd).foldl Supply.append Supply.none
  { w.idle with
    output := f supply
    complaints
    input
    status := if complaints.isEmpty then 0 else 1 }

/-! ### Copying -/

/-- Fill up with blanks before. -/
def padLeft (width : Nat) (s : Str) : Str :=
  List.replicate (width - s.length) ' ' ++ s

/-- How copied bytes are shown. -/
structure Show where
  numbers : Bool := false
  numbersFilled : Bool := false
  squeezes : Bool := false
  marksEnds : Bool := false
  marksTabs : Bool := false
  marksOthers : Bool := false

/-- What the letters of options ask for. -/
def Show.ofLetters (given : Str) : Show :=
  let has (cs : String) : Bool := given.any cs.toList.contains
  { numbers := has "n"
    numbersFilled := has "b"
    squeezes := has "s"
    marksEnds := has "EeA"
    marksTabs := has "TtA"
    marksOthers := has "vetA" }

/-- A byte that is no newline, shown in print. -/
def Show.byte (style : Show) (c : Char) : Str :=
  let n := c.toNat
  let low (n : Nat) : Str :=
    if n < 32 then ['^', Char.ofNat (n + 64)]
    else if n = 127 then ['^', '?']
    else [Char.ofNat n]
  if c = '\t' then
    if style.marksTabs then low n else [c]
  else if !style.marksOthers then
    [c]
  else if n < 128 then
    low n
  else
    ['M', '-'] ++ low (n - 128)

/-- Lines, without those empty ones that follow an empty one. -/
def squeezeLines : List Str → List Str
  | [] => []
  | [line] => [line]
  | first :: second :: more =>
    if first = ['\n'] ∧ second = ['\n'] then squeezeLines (second :: more)
    else first :: squeezeLines (second :: more)

/-- Lines with what is shown before, in and behind them, from a number on. -/
def Show.lines (style : Show) : Nat → List Str → Str
  | _, [] => []
  | number, line :: more =>
    let counted := if style.numbersFilled then line != ['\n'] else style.numbers
    let label := if counted then padLeft 6 (Str.ofNat number) ++ ['\t'] else []
    let body := Str.dropNewline line
    let ending := line.drop body.length
    let mark := if style.marksEnds ∧ ending ≠ [] then ['$'] else []
    label ++ body.flatMap style.byte ++ mark ++ ending
      ++ style.lines (if counted then number + 1 else number) more

/-- Copy files, or the input, to the output. -/
def cat : Tool := fun w arguments ↦
  let (options, operands) := splitOptions arguments
  let given := letters options
  match stranger? "uAbeEnstTv" options with
  | some c => unknownOption w "cat" c
  | none =>
    through w "cat" operands fun s ↦
      if given.all (· = 'u') then
        s
      else
        let style := Show.ofLetters given
        let lines := Str.lines s.bytes
        { s with
          bytes := style.lines 1 (if style.squeezes then squeezeLines lines else lines) }

/-! ### Cutting -/

/-- The first lines of a supply. -/
def firstLines (n : Nat) (s : Supply) : Str :=
  let lines := Str.lines s.bytes
  if s.forever.isEmpty ∨ n < lines.length then
    (lines.take n).flatten
  else
    ((Str.lines (s.take (s.bytes.length + (n + 1) * s.forever.length))).take n).flatten

/-- Which end a count is taken from. -/
inductive Sign
  | plain
  | plus
  | minus
  deriving DecidableEq

/-- How much of something: a count, of bytes or of lines, with the sign that it is written with. -/
structure Amount where
  count : Nat := 10
  ofBytes : Bool := false
  sign : Sign := .plain

/-- Why options say no amount. -/
inductive Amount.Fault
  | missing (letter : Char)
  | stranger (what : Str)
  | noNumber (ofBytes : Bool) (value : Str)

/-- The amount that options say, and the operands behind them. -/
def readAmount : Amount → List Str → Except Amount.Fault (Amount × List Str)
  | amount, [] => .ok (amount, [])
  | amount, word :: more =>
    match word with
    | ['-', 'c'] | ['-', 'n'] =>
      match more with
      | [] => .error (.missing (word.getLast?.getD ' '))
      | value :: rest =>
        (number (word = ['-', 'c']) value).bind fun amount ↦ readAmount amount rest
    | '-' :: 'c' :: value => (number true value).bind fun amount ↦ readAmount amount more
    | '-' :: 'n' :: value => (number false value).bind fun amount ↦ readAmount amount more
    | ['-', '-'] => .ok (amount, more)
    | '-' :: '-' :: _ => .error (.stranger ((stranger? "" [word]).getD []))
    | '-' :: d :: digits =>
      match Str.nat? (d :: digits) with
      | some count => readAmount { amount with count } more
      | none => .error (.stranger (unknownLetter d))
    | _ => .ok (amount, word :: more)
where
  /-- A count with its sign. -/
  number (ofBytes : Bool) (value : Str) : Except Amount.Fault Amount :=
    let (sign, digits) := match value with
      | '+' :: digits => (Sign.plus, digits)
      | '-' :: digits => (Sign.minus, digits)
      | digits => (Sign.plain, digits)
    match Str.nat? digits with
    | some count => .ok { count, ofBytes, sign }
    | none => .error (.noNumber ofBytes value)

/-- The complaint about options that say no amount. -/
def badAmount (w : Workplace) (tool : String) : Amount.Fault → Work
  | .missing letter =>
    unknownOption w tool ("option requires an argument -- ".toList ++ quote [letter])
  | .stranger what => unknownOption w tool what
  | .noNumber ofBytes value =>
    w.fails (s!"{tool}: invalid number of ".toList
      ++ (if ofBytes then "bytes" else "lines").toList ++ ": ".toList ++ quote value) 1

/-- A complaint about a source of which no part can be had. -/
def unopened (tool : String) (name : Str) : PathFault → Str
  | .isDirectory => s!"{tool}: error reading ".toList ++ quote name ++ ": Is a directory\n".toList
  | fault =>
    s!"{tool}: cannot open ".toList ++ quote name ++ " for reading: ".toList ++ describe fault
      ++ ['\n']

/-- Print a part of each source, under its name if there are several. -/
def partOfEach (w : Workplace) (tool : String) (operands : List Str) (f : Supply → Supply) :
    Work :=
  let names := sources operands
  let (contents, input) := readAll w names
  let complaints := complaintsOf (unopened tool) contents
  let title (name : Str) : Str :=
    "==> ".toList ++ (if name = ['-'] then "standard input".toList else name)
      ++ " <==\n".toList
  let output := (contentsOf contents).foldl
    (fun (supply : Supply) (name, content) ↦
      let space := if supply.bytes.isEmpty then [] else ['\n']
      let heading := if 1 < names.length then space ++ title name else []
      (supply.append { bytes := heading }).append (f content))
    Supply.none
  { w.idle with output, complaints, input, status := if complaints.isEmpty then 0 else 1 }

/-- The start of files, or of the input. -/
def head : Tool := fun w arguments ↦
  match readAmount {} arguments with
  | .error fault => badAmount w "head" fault
  | .ok (amount, operands) =>
    partOfEach w "head" operands fun s ↦
      let butLast {α : Type} (items : List α) : List α :=
        items.take (items.length - amount.count)
      match amount.sign, amount.ofBytes with
      | .minus, true => { s with bytes := butLast s.bytes }
      | .minus, false => { s with bytes := (butLast (Str.lines s.bytes)).flatten }
      | _, true => { bytes := s.take amount.count }
      | _, false => { bytes := firstLines amount.count s }

/-- The end of files, or of the input. -/
def tail : Tool := fun w arguments ↦
  match readAmount {} arguments with
  | .error fault => badAmount w "tail" fault
  | .ok (amount, operands) =>
    partOfEach w "tail" operands fun s ↦
      let cut {α : Type} (items : List α) : List α :=
        if amount.sign = .plus then items.drop (amount.count - 1)
        else items.drop (items.length - amount.count)
      { s with
        bytes := if amount.ofBytes then cut s.bytes else (cut (Str.lines s.bytes)).flatten }

/-! ### Counting -/

/-- A blank byte. -/
def isSpace (c : Char) : Bool :=
  c = ' ' || ('\t' ≤ c && c ≤ '\r')

/-- The number of words of a string, given whether a word is under way. -/
def countWords : Bool → Str → Nat
  | _, [] => 0
  | inside, c :: rest =>
    if isSpace c then countWords false rest
    else (if inside then 0 else 1) + countWords true rest

/-- The width that does for the count of a source that is no file. -/
def usualWidth : Nat := 7

/-- The width of the columns: enough for the sizes of all sources together. -/
def columnWidth (contents : List (Str × Except PathFault Supply)) : Nat :=
  let isFile : Str × Except PathFault Supply → Bool
    | (_, .ok s) => s.size.isSome
    | (_, .error fault) => fault != .isDirectory
  let sizes := (contentsOf contents).map fun c ↦ c.2.size.getD 0
  let enough := (Str.ofNat (sizes.foldl (· + ·) 0)).length
  if contents.all isFile then enough else max usualWidth enough

/-- Count lines, words and bytes. -/
def wc : Tool := fun w arguments ↦
  let (options, operands) := splitOptions arguments
  let given := letters options
  match stranger? "clmw" options with
  | some c => unknownOption w "wc" c
  | none =>
    let wanted (c : Char) : Bool := given.isEmpty || given.contains c
    let counts (s : Str) : List Nat :=
      (if wanted 'l' then [s.count '\n'] else [])
        ++ (if wanted 'w' then [countWords false s] else [])
        ++ (if wanted 'c' || given.contains 'm' then [s.length] else [])
    let (contents, input) := readAll w (sources operands)
    let complaints := complaintsOf (unread "wc") contents
    let rows := contents.filterMap fun (name, content) ↦
      let shown := if operands.isEmpty then [] else name
      match content with
      | .ok s => some (shown, counts s.bytes)
      | .error .isDirectory => some (shown, counts [])
      | .error _ => none
    let sums := rows.map Prod.snd |>.foldl (List.zipWith (· + ·)) ((counts []).map fun _ ↦ 0)
    let rows := if 1 < contents.length then rows ++ [("total".toList, sums)] else rows
    let width :=
      if (counts []).length = 1 ∧ contents.length = 1 then 1 else columnWidth contents
    let line (row : Str × List Nat) : Str :=
      [' '].intercalate (row.2.map fun n ↦ padLeft width (Str.ofNat n))
        ++ (if row.1.isEmpty then [] else ' ' :: row.1) ++ ['\n']
    { w.idle with
      output := { bytes := rows.flatMap line }
      complaints
      input
      status := if complaints.isEmpty then 0 else 1 }

/-! ### Lines -/

/-- A complaint about a source that cannot be sorted. -/
def unsorted (name : Str) : PathFault → Str
  | .isDirectory => "sort: read failed: ".toList ++ name ++ ": Is a directory\n".toList
  | fault => "sort: cannot read: ".toList ++ name ++ ": ".toList ++ describe fault ++ ['\n']

/-- Lines in the order of their bytes. -/
def sort : Tool := fun w arguments ↦
  let (options, operands) := splitOptions arguments
  let given := letters options
  let value (line : Str) : Int :=
    let line := line.dropWhile isSpace
    let (sign, digits) := match line with
      | '-' :: rest => ((-1 : Int), rest)
      | rest => (1, rest)
    sign * ((Str.nat? (digits.takeWhile Char.isDigit)).getD 0 : Nat)
  let before (a b : Str) : Bool :=
    if given.contains 'n' && value a != value b then decide (value a < value b)
    else decide (String.ofList a ≤ String.ofList b)
  match stranger? "rnu" options with
  | some c => { unknownOption w "sort" c with status := 2 }
  | none =>
    let (contents, input) := readAll w (sources operands)
    match contents.find? fun c ↦ c.2.toOption.isNone with
    | some (name, .error fault) =>
      { w.idle with complaints := unsorted name fault, input, status := 2 }
    | _ =>
      let supply := (contentsOf contents).foldl (fun s c ↦ s.append c.2) Supply.none
      let lines := (contentsOf contents).flatMap fun c ↦
        (Str.lines c.2.bytes).map Str.dropNewline
      let sorted := lines.mergeSort fun a b ↦ if given.contains 'r' then before b a else before a b
      let sorted := if given.contains 'u' then sorted.eraseReps else sorted
      { w.idle with
        output := { supply with bytes := sorted.flatMap fun line ↦ line ++ ['\n'] }
        input }

/-- Lines without those that repeat the line before. -/
def uniq : Tool := fun w arguments ↦
  let (options, operands) := splitOptions arguments
  match stranger? "" options with
  | some c => unknownOption w "uniq" c
  | none =>
    through w "uniq" operands fun s ↦
      let lines := ((Str.lines s.bytes).map Str.dropNewline).eraseReps
      { s with bytes := lines.flatMap fun line ↦ line ++ ['\n'] }

/-- Lines with their bytes in reverse order. -/
def rev : Tool := fun w arguments ↦
  through w "rev" arguments fun s ↦
    { s with bytes := (Str.lines s.bytes).flatMap fun line ↦
        let body := Str.dropNewline line
        body.reverse ++ line.drop body.length }

/-! ### Sources of their own -/

/-- A line again and again. -/
def yes : Tool := fun w arguments ↦
  let words := if arguments.isEmpty then [['y']] else arguments
  w.prints { forever := [' '].intercalate words ++ ['\n'] }

/-- Whole numbers in a row, one in a line. -/
def seq : Tool := fun w arguments ↦
  let numbers := arguments.map Str.int?
  let run (first step last : Int) : Work :=
    if step = 0 then
      w.fails "seq: invalid Zero increment value: '0'".toList 1
    else
      let steps := (last - first) / step
      let count := if steps < 0 then 0 else steps.toNat + 1
      w.prints { bytes := (List.range count).flatMap fun (i : Nat) ↦
          Str.ofInt (first + step * Int.ofNat i) ++ ['\n'] }
  match numbers with
  | [some last] => run 1 1 last
  | [some first, some last] => run first 1 last
  | [some first, some step, some last] => run first step last
  | [] => missingOperand w "seq"
  | _ => w.fails "seq: invalid floating point argument".toList 1

/-- The time that an argument of `sleep` says, in milliseconds; none means for ever. -/
def duration (s : Str) : Option (Option Nat) :=
  let whole := s.takeWhile Char.isDigit
  let behind := s.drop whole.length
  let (fraction, behind) := match behind with
    | '.' :: rest => (rest.takeWhile Char.isDigit, rest.dropWhile Char.isDigit)
    | rest => ([], rest)
  let unit : Option Nat := match behind with
    | [] | ['s'] => some 1
    | ['m'] => some 60
    | ['h'] => some 3600
    | ['d'] => some 86400
    | _ => none
  if s = "infinity".toList ∨ s = "inf".toList then
    some none
  else if whole.isEmpty ∧ fraction.isEmpty then
    none
  else
    let thousandths := (fraction ++ ['0', '0', '0']).take 3
    unit.map fun unit ↦
      some (((Str.nat? whole).getD 0 * 1000 + (Str.nat? thousandths).getD 0) * unit)

/-- The longest pause that is told from one for ever, in milliseconds. -/
def longestPause : Nat := 1000000000000000

/-- Wait. -/
def sleep : Tool := fun w arguments ↦
  if arguments.isEmpty then
    missingOperand w "sleep"
  else
    match arguments.find? fun a ↦ (duration a).isNone with
    | some bad =>
      w.fails ("sleep: invalid time interval ".toList ++ quote bad
        ++ "\nTry 'sleep --help' for more information.".toList) 1
    | none =>
      let times := arguments.filterMap fun a ↦ (duration a).map fun d ↦ d.getD longestPause
      { w.idle with pause := times.foldl (· + ·) 0 }

/-! ### Names -/

/-- A name without the slashes at its end. -/
def trimSlashes (s : Str) : Str :=
  let s' := (s.reverse.dropWhile (· = '/')).reverse
  if s'.isEmpty && !s.isEmpty then ['/'] else s'

/-- The last name of a path, without an ending if it is given. -/
def basename : Tool := fun w arguments ↦
  match arguments with
  | [] => missingOperand w "basename"
  | path :: more =>
    let path := trimSlashes path
    let name := if path = ['/'] then path else (path.reverse.takeWhile (· ≠ '/')).reverse
    let ending := more.head?.getD []
    let name :=
      if ending.length < name.length && ending.isSuffixOf name then
        name.take (name.length - ending.length)
      else
        name
    w.prints { bytes := name ++ ['\n'] }

/-- A path without its last name. -/
def dirname : Tool := fun w arguments ↦
  match arguments with
  | [] => missingOperand w "dirname"
  | path :: _ =>
    let path := trimSlashes path
    let upper := (path.reverse.dropWhile (· ≠ '/')).reverse
    let upper := if upper.isEmpty then ['.'] else trimSlashes upper
    w.prints { bytes := upper ++ ['\n'] }

end RonWorkbench.Shell.Tool
