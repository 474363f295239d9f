import RonWorkbench.Shell.Condition
import RonWorkbench.Shell.Expansion
import RonWorkbench.Shell.Print

/-!
# Commands of the shell itself

The commands that need no program and do not run others: they print, read, change the shell's own
variables and arguments, or say where the run goes on. Each gives its exit status.
-/

namespace RonWorkbench.Shell.Builtin

/-- A command of the shell: what it does with its arguments, and its exit status. -/
abbrev Action := List Str → Run Nat

/-- Complain in the name of a command. -/
def complain (command : String) (s : Str) : Run Unit :=
  Run.complain (command.toList ++ ": ".toList ++ s)

/-- A number that a command was given; anything else ends the shell. -/
def number (command : String) (s : Str) : Run Nat := do
  match Str.nat? s with
  | some n => return n
  | none => Run.fatal (command.toList ++ ": Illegal number: ".toList ++ s)

/-- A name that no variable can have ends the shell. -/
def checkName (command : String) (name : Str) : Run Unit :=
  if name.head?.any Arithmetic.beginsName && name.all Arithmetic.inName then return ()
  else Run.fatal (s!"{command}: ".toList ++ name ++ ": bad variable name".toList)

/-! ### Printing -/

/-- Print words. -/
def echo : Action := fun arguments ↦ do
  Run.print (Shell.echo arguments)
  return 0

/-- Print by a format. -/
def printf : Action := fun arguments ↦ do
  match if arguments.head? = some ['-', '-'] then arguments.drop 1 else arguments with
  | [] => Run.fatal "printf: usage: printf format [arg ...]".toList
  | format :: arguments =>
    let p := Shell.printf format arguments
    Run.print p.output
    p.complaints.forM (complain "printf")
    return if p.failed then 1 else 0

/-- Print the working directory. -/
def pwd : Action := fun _ ↦ do
  Run.print (Str.ofText (Formatter.renderPath (← Run.shell).here) ++ ['\n'])
  return 0

/-! ### Reading -/

/-- A line as glyphs, with the number of bytes that it takes and whether it was ended. -/
def readGlyphs (raw : Bool) : Str → List Glyph × Nat × Bool
  | [] => ([], 0, false)
  | '\\' :: c :: rest =>
    if raw then
      let (glyphs, n, ended) := if c = '\n' then ([], 1, true) else
        let (glyphs, n, ended) := readGlyphs raw rest
        (.byte c false true :: glyphs, n + 1, ended)
      (.byte '\\' false true :: glyphs, n + 1, ended)
    else
      let (glyphs, n, ended) := readGlyphs raw rest
      (if c = '\n' then glyphs else .byte c true false :: glyphs, n + 2, ended)
  | c :: rest =>
    if c = '\n' then
      ([], 1, true)
    else
      let (glyphs, n, ended) := readGlyphs raw rest
      (.byte c false true :: glyphs, n + 1, ended)

/-- Fields end at this glyph. -/
def separates (separators : Str) : Glyph → Bool
  | .byte c _ splits => splits && separators.contains c
  | _ => false

/-- Fields end at this white glyph. -/
def separatesWhite (separators : Str) : Glyph → Bool
  | .byte c _ splits => splits && separators.contains c && Glyph.isWhite c
  | _ => false

/-- The values for a number of variables; the last takes all that is left. -/
def distribute (separators : Str) : Nat → List Glyph → List Str
  | 0, _ => []
  | 1, glyphs =>
    let body := glyphs.dropWhile (separatesWhite separators)
    [Glyph.bytes ((body.reverse.dropWhile (separatesWhite separators)).reverse)]
  | n + 2, glyphs =>
    let body := glyphs.dropWhile (separatesWhite separators)
    let field := body.takeWhile fun g ↦ !separates separators g
    let behind := (body.drop field.length).dropWhile (separatesWhite separators)
    let behind := match behind with
      | g :: more => if separates separators g then more else g :: more
      | [] => []
    Glyph.bytes field :: distribute separators (n + 1) behind

/-- Read a line into variables. -/
def read : Action := fun arguments ↦ do
  let raw := arguments.head? = some ['-', 'r']
  let names := arguments.filter fun a ↦ a.head? ≠ some '-'
  if names.isEmpty then
    Run.fatal "read: arg count".toList
  names.forM (checkName "read")
  let supply ← Run.inputOf 0
  let (glyphs, n, ended) := readGlyphs raw supply.bytes
  Run.setInput 0 (supply.drop n)
  let values := distribute (← Expansion.separators) names.length glyphs
  (names.zip values).forM fun (name, value) ↦ do
    Run.checkFixed "read: " name
    Run.setVariable name value
  return if ended then 0 else 1

/-! ### Where the run goes on -/

/-- End the shell. -/
def exit : Action := fun arguments ↦ do
  match arguments with
  | [] => throw (.exit (← Run.shell).status)
  | a :: _ => throw (.exit ((← number "exit" a) % 256))

/-- Leave a command of one's own. -/
def back : Action := fun arguments ↦ do
  match arguments with
  | [] => throw (.back (← Run.shell).status)
  | a :: _ => throw (.back ((← number "return" a) % 256))

/-- The number of loops that an argument says, as far as there are any. -/
def loopCount (command : String) (arguments : List Str) : Run Nat := do
  let n ← match arguments with
    | [] => pure 1
    | a :: _ => number command a
  return min n (← Run.shell).loops

/-- Leave loops. -/
def leave : Action := fun arguments ↦ do
  let n ← loopCount "break" arguments
  if n = 0 then return 0 else throw (.leave n)

/-- Leave loops but the last, which goes on. -/
def again : Action := fun arguments ↦ do
  let n ← loopCount "continue" arguments
  if n = 0 then return 0 else throw (.again n)

/-! ### Variables and arguments -/

/-- The name and the value that an argument sets, if it sets one. -/
def splitSetting (s : Str) : Str × Option Str :=
  let name := s.takeWhile (· ≠ '=')
  (name, if name.length < s.length then some (s.drop (name.length + 1)) else none)

/-- Set the variables that arguments say, and do something with each. -/
def declare (command : String) (act : Str → Run Unit) : Action := fun arguments ↦ do
  (arguments.filter (· ≠ ['-', '-'])).forM fun a ↦ do
    let (name, value) := splitSetting a
    checkName command name
    match value with
    | some value =>
      Run.checkFixed s!"{command}: " name
      Run.setVariable name value
    | none => pure ()
    act name
  return 0

/-- Give variables to programs. -/
def giveOn : Action :=
  declare "export" Run.giveOn

/-- Make variables such that they cannot be set. -/
def fix : Action :=
  declare "readonly" fun name ↦ Run.changeShell fun s ↦ { s with fixed := name :: s.fixed }

/-- Set variables for the command of one's own that is run. -/
def declareLocal : Action := fun arguments ↦ do
  arguments.forM fun a ↦ do
    let (name, value) := splitSetting a
    checkName "local" name
    let old ← Run.valueOf? name
    Run.changeShell fun s ↦ { s with locals := (name, old) :: s.locals }
    match value with
    | some value => Run.setVariable name value
    | none => pure ()
  return 0

/-- Drop variables, or commands of one's own. -/
def unset : Action := fun arguments ↦ do
  match arguments with
  | ['-', 'f'] :: names =>
    Run.changeShell fun s ↦ { s with commands := names.foldl Keyed.erase s.commands }
  | names =>
    let names := if names.head? = some ['-', 'v'] then names.drop 1 else names
    names.forM fun name ↦ do
      checkName "unset" name
      Run.checkFixed "unset: " name
      Run.changeShell fun s ↦
        { s with bindings := s.bindings.erase name, exported := s.exported.erase name }
  return 0

/-- Drop arguments. -/
def shift : Action := fun arguments ↦ do
  let n ← match arguments with
    | [] => pure 1
    | a :: _ => number "shift" a
  if (← Run.shell).arguments.length < n then
    Run.fatal "shift: can't shift that many".toList
  Run.changeShell fun s ↦ { s with arguments := s.arguments.drop n }
  return 0

/-- The long names of options, with their letters. -/
def switchNames : List (String × Char) :=
  [("errexit", 'e'), ("noglob", 'f'), ("ignoreeof", 'I'), ("interactive", 'i'), ("monitor", 'm'),
    ("noexec", 'n'), ("stdin", 's'), ("xtrace", 'x'), ("verbose", 'v'), ("vi", 'V'),
    ("emacs", 'E'), ("noclobber", 'C'), ("allexport", 'a'), ("notify", 'b'), ("nounset", 'u'),
    ("privileged", 'p'), ("nolog", ' '), ("debug", ' ')]

/-- Switch an option. -/
def switch (on : Bool) (letter : Char) (switches : Str) : Str :=
  if on then letter :: switches.erase letter else switches.erase letter

/--
Switch the options of one word, of which some letters are no options but known; the letter `o` takes
the next word as a name. The result says what is switched on and whether the next word was taken,
or which option there is none of.
-/
def switchWord (known : Str) (on : Bool) (letters : Str) (next : Option Str) (switches : Str) :
    Except Str (Str × Bool) :=
  let (letters, named) := letters.partition (· ≠ 'o')
  let all := known ++ (switchNames.map Prod.snd).filter (· ≠ ' ')
  match letters.find? fun c ↦ !all.contains c with
  | some c => .error ['-', c]
  | none =>
    let switches := letters.foldl (fun s c ↦ switch on c s) switches
    match named, next with
    | [], _ | _, none => .ok (switches, false)
    | _, some name =>
      match switchNames.lookup (String.ofList name) with
      | some letter => .ok (switch on letter switches, true)
      | none => .error ("-o ".toList ++ name)

/-- Read words of options: what is switched on, and the words behind. -/
def readSwitches (known : Str) (switches : Str) (words : List Str) :
    Except Str (Str × List Str) :=
  match words with
  | [] => .ok (switches, [])
  | word :: more =>
    let read (on : Bool) (letters : Str) : Except Str (Str × List Str) :=
      match switchWord known on letters more.head? switches with
      | .error option => .error option
      | .ok (switches, true) => readSwitches known switches (more.drop 1)
      | .ok (switches, false) => readSwitches known switches more
    match word with
    | ['-'] | ['-', '-'] => .ok (switches, word :: more)
    | '-' :: letters => read true letters
    | '+' :: letters => read false letters
    | _ => .ok (switches, word :: more)
termination_by words.length
decreasing_by
  all_goals
    simp only [List.length_drop, List.length_cons]
    omega

/-- Set options and arguments. -/
def setOptions : Action := fun words ↦ do
  match readSwitches [] (← Run.shell).switches words with
  | .error option => Run.fatal ("set: Illegal option ".toList ++ option)
  | .ok (switches, behind) =>
    Run.changeShell fun s ↦ { s with switches }
    match behind with
    | [] => return 0
    | ['-', '-'] :: arguments => Run.changeShell fun s ↦ { s with arguments }
    | ['-'] :: arguments =>
      Run.changeShell fun s ↦
        { s with
          switches := switch false 'x' (switch false 'v' s.switches)
          arguments := if arguments.isEmpty then s.arguments else arguments }
    | arguments => Run.changeShell fun s ↦ { s with arguments }
    return 0

/-- Change the working directory. -/
def cd : Action := fun arguments ↦ do
  let target := arguments.head?.getD (((← Run.valueOf? "HOME".toList)).getD [])
  if target.isEmpty then
    return 0
  let sh ← Run.shell
  let files := (← Run.machine).files
  match files.resolve sh.here (Str.text target) with
  | .ok path =>
    if files.isDirectory path then
      Run.changeShell fun s ↦ { s with here := path }
      Run.setVariable "PWD".toList (Str.ofText (Formatter.renderPath path))
      return 0
    else
      complain "cd" ("can't cd to ".toList ++ target)
      return misuseStatus
  | .error _ =>
    complain "cd" ("can't cd to ".toList ++ target)
    return misuseStatus

/-! ### Conditions and signals -/

/-- Decide a condition. -/
def decideCondition (command : String) (words : List Str) : Run Nat := do
  match Condition.holds ⟨(← Run.shell).here, (← Run.machine).files⟩ words with
  | .ok b => return if b then 0 else 1
  | .error s =>
    complain command s
    return misuseStatus

/-- Decide a condition between brackets. -/
def bracket : Action := fun arguments ↦ do
  if arguments.getLast? = some [']'] then
    decideCondition "[" arguments.dropLast
  else
    complain "[" "missing ]".toList
    return misuseStatus

/-- The name of a signal, without its first letters, from a name or a number. -/
def signalName? (s : Str) : Option String :=
  match Str.nat? s with
  | some 0 => some "EXIT"
  | some n => (Formatter.ExitStatus.signalNames.lookup n).map fun name ↦
      String.ofList (name.toList.drop 3)
  | none =>
    let short := if "SIG".toList.isPrefixOf s then s.drop 3 else s
    let name := String.ofList (short.map Char.toUpper)
    if name = "EXIT" ∨ Formatter.ExitStatus.signalNames.any (fun e ↦ e.2 = "SIG" ++ name) then
      some name
    else
      none

/-- The number of a signal's name. -/
def signalNumber (name : String) : Nat :=
  ((Formatter.ExitStatus.signalNames.find? fun e ↦ e.2 = "SIG" ++ name).map Prod.fst).getD 0

/-- Say what is to be run when a signal comes, or at the end. -/
def trap : Action := fun arguments ↦ do
  match arguments with
  | [] => return 0
  | action :: signals =>
    let names := signals.filterMap signalName?
    Run.changeShell fun s ↦
      { s with
        traps := names.foldl
          (fun traps name ↦
            if action = ['-'] then traps.erase name.toList else traps.set name.toList action)
          s.traps }
    return if names.length = signals.length then 0 else 1

/-- Wait for the commands that were not waited for. -/
def wait : Action := fun _ ↦ do
  Run.changeMachine fun m ↦ { m with time := max m.time m.busyUntil }
  return 0

/-- Do nothing, well. -/
def succeed : Action := fun _ ↦ return 0

/-! ### All of them -/

/-- The commands that are part of how a script runs; their assignments stay. -/
def special : List (String × Action) :=
  [(":", succeed), ("exit", exit), ("return", back), ("break", leave), ("continue", again),
    ("export", giveOn), ("readonly", fix), ("unset", unset), ("shift", shift),
    ("set", setOptions), ("trap", trap)]

/-- The other commands of the shell. -/
def regular : List (String × Action) :=
  [("true", succeed), ("false", fun _ ↦ return 1), ("echo", echo), ("printf", printf),
    ("pwd", pwd), ("read", read), ("cd", cd), ("test", decideCondition "test"), ("[", bracket),
    ("local", declareLocal), ("wait", wait), ("umask", succeed)]

end RonWorkbench.Shell.Builtin
