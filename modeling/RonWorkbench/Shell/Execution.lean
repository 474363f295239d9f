import RonWorkbench.Shell.Program

/-!
# Running scripts

A script is run line by line, a line command by command. What a command does depends on its name:
it may be a command of the shell itself, one that the script has defined, a tool, or another shell.

A run need not end, so it is given a number of steps; when they are used up the run counts as one
that does not end.
-/

namespace RonWorkbench.Shell.Execution

/-- The part is what a script prints. -/
def isOutput : Part → Bool
  | .output .. => true
  | _ => false

/-- A command that failed ends a strict shell, unless its failure is looked at. -/
def checkStrict (tested : Bool) : Run Unit := do
  let s ← Run.shell
  if s.isOn .strict && !tested && s.status != 0 then
    throw (.exit s.status)

mutual

/-- Run a script line by line. -/
def runScript (fuel : Nat) (script : Script) : Run Unit :=
  match fuel with
  | 0 => throw .endless
  | fuel + 1 => do
    match script.next? with
    | .error fault =>
      Run.changeShell fun s ↦ { s with line := fault.line }
      Run.fatal fault.cause.message.toList
    | .ok (none, _) => return ()
    | .ok (some command, rest) =>
      runCommand fuel false command
      runScript fuel rest

/-- What a script prints, without the line feeds at its end. -/
def substitute (fuel : Nat) (source : Str) : Run Str :=
  match fuel with
  | 0 => throw .endless
  | fuel + 1 => do
    let line := (← Run.shell).line
    let supply ← Run.gather do
      Run.setStatus 0
      runScript fuel { rest := source, line }
    return Str.dropNewlines (supply.bytes.filter (· ≠ '\x00'))

/-- Run a command; its failure may be looked at by what it is part of. -/
def runCommand (fuel : Nat) (tested : Bool) (command : Command) : Run Unit :=
  match fuel with
  | 0 => throw .endless
  | fuel + 1 => do
    if (← Run.shell).isOn .reading then
      return ()
    match command with
    | .simple line assignments words redirects =>
      Run.changeShell fun s ↦ { s with line }
      runSimple fuel assignments words redirects
      checkStrict tested
    | .pipe parts =>
      runPipe fuel none parts
      checkStrict tested
    | .not command =>
      runCommand fuel true command
      Run.setStatus (if (← Run.shell).status = 0 then 1 else 0)
    | .both first second =>
      runCommand fuel true first
      if (← Run.shell).status = 0 then
        runCommand fuel tested second
    | .either first second =>
      runCommand fuel true first
      if (← Run.shell).status ≠ 0 then
        runCommand fuel tested second
    | .sequence commands => runAll fuel tested commands
    | .background command =>
      let start := (← Run.machine).time
      Run.isolated do
        let channel ← Run.openInput Supply.none
        Run.changeShell fun s ↦ { s with channels := s.channels.set 0 channel }
        runCommand fuel false command
      Run.changeMachine fun m ↦
        { m with time := start, busyUntil := max m.busyUntil m.time }
      Run.setStatus 0
    | .subshell body =>
      Run.isolated do
        Run.changeShell fun s ↦ { s with traps := .empty }
        runCommand fuel tested body
      checkStrict tested
    | .redirected line body redirects =>
      Run.changeShell fun s ↦ { s with line }
      keepingChannels do
        if ← redirectAll (substitute fuel) redirects then
          runCommand fuel tested body
        else
          Run.setStatus misuseStatus
    | .choose condition body otherwise =>
      runCommand fuel true condition
      let succeeded := (← Run.shell).status = 0
      Run.setStatus 0
      runCommand fuel tested (if succeeded then body else otherwise)
    | .loop untilSuccess condition body =>
      Run.changeShell fun s ↦ { s with loops := s.loops + 1 }
      runLoop fuel tested untilSuccess condition body 0
      Run.changeShell fun s ↦ { s with loops := s.loops - 1 }
    | .each name words body =>
      let values ← match words with
        | some words => Expansion.allFields (substitute fuel) words
        | none => do pure (← Run.shell).arguments
      Run.setStatus 0
      Run.changeShell fun s ↦ { s with loops := s.loops + 1 }
      runEach fuel tested name body values
      Run.changeShell fun s ↦ { s with loops := s.loops - 1 }
    | .select word branches =>
      let value ← Expansion.whole (substitute fuel) word
      Run.setStatus 0
      runBranches fuel tested value branches
    | .define name body =>
      Run.changeShell fun s ↦ { s with commands := s.commands.set name body }
      Run.setStatus 0

/-- Run commands one after another. -/
def runAll (fuel : Nat) (tested : Bool) (commands : List Command) : Run Unit :=
  match fuel with
  | 0 => throw .endless
  | fuel + 1 => do
    match commands with
    | [] => return ()
    | [command] => runCommand fuel tested command
    | command :: more =>
      runCommand fuel tested command
      runAll fuel tested more

/-- Run commands that hand on what they print. -/
def runPipe (fuel : Nat) (input : Option Supply) (parts : List Command) : Run Unit :=
  match fuel with
  | 0 => throw .endless
  | fuel + 1 => do
    let body (command : Command) : Run Unit := do
      match input with
      | some supply =>
        let channel ← Run.openInput supply
        Run.changeShell fun s ↦ { s with channels := s.channels.set 0 channel }
      | none => pure ()
      Run.changeShell fun s ↦ { s with traps := .empty }
      runCommand fuel false command
    match parts with
    | [] => return ()
    | [command] => Run.isolated (body command)
    | command :: more =>
      let n ← Run.newNumber
      let outer ← Run.shell
      try
        Run.isolated do
          Run.changeShell fun s ↦ { s with channels := s.channels.set 1 (.gathering n) }
          body command
      catch
        | .endless => Run.changeShell fun _ ↦ outer
        | halt => throw halt
      let supply := ((← Run.machine).gathered.get? n).getD {}
      runPipe fuel (some supply) more

/-- Run a loop; the status is that of the last time round. -/
def runLoop (fuel : Nat) (tested untilSuccess : Bool) (condition body : Command) (last : Nat) :
    Run Unit :=
  match fuel with
  | 0 => throw .endless
  | fuel + 1 => do
    runCommand fuel true condition
    if ((← Run.shell).status = 0) != untilSuccess then
      if ← runRound fuel tested body then
        let last := (← Run.shell).status
        runLoop fuel tested untilSuccess condition body last
    else
      Run.setStatus last

/-- Run the body of a loop once, and say whether the loop goes on. -/
def runRound (fuel : Nat) (tested : Bool) (body : Command) : Run Bool :=
  match fuel with
  | 0 => throw .endless
  | fuel + 1 => do
    let loops := (← Run.shell).loops
    try
      runCommand fuel tested body
      return true
    catch halt =>
      Run.changeShell fun s ↦ { s with loops }
      match halt with
      | .leave n => if 1 < n then throw (.leave (n - 1)) else return false
      | .again n => if 1 < n then throw (.again (n - 1)) else return true
      | halt => throw halt

/-- Run a loop over values. -/
def runEach (fuel : Nat) (tested : Bool) (name : Str) (body : Command) (values : List Str) :
    Run Unit :=
  match fuel with
  | 0 => throw .endless
  | fuel + 1 => do
    match values with
    | [] => return ()
    | value :: more =>
      Run.setVariable name value
      if ← runRound fuel tested body then
        runEach fuel tested name body more

/-- Run the first branch with a pattern that matches. -/
def runBranches (fuel : Nat) (tested : Bool) (value : Str)
    (branches : List (List Word × Command)) : Run Unit :=
  match fuel with
  | 0 => throw .endless
  | fuel + 1 => do
    match branches with
    | [] => return ()
    | (patterns, body) :: more =>
      let patterns ← patterns.mapM (Expansion.patternOf (substitute fuel))
      if patterns.any fun p ↦ p.accepts value then
        runCommand fuel tested body
      else
        runBranches fuel tested value more

/-- Run a simple command. -/
def runSimple (fuel : Nat) (assignments : List (Str × Word)) (words : List Word)
    (redirects : List Redirect) : Run Unit :=
  match fuel with
  | 0 => throw .endless
  | fuel + 1 => do
    let outer ← Run.shell
    let errors := outer.channels.get? 2
    let assign (given : Bool) : Run (List Str) := assignments.mapM fun (name, word) ↦ do
      let value ← Expansion.whole (substitute fuel) word
      Run.setVariable name value
      if given then
        Run.giveOn name
      return name ++ '=' :: value
    match ← Expansion.allFields (substitute fuel) words with
    | [] =>
      if !(assignments.any (fun a ↦ a.2.any isOutput) || words.any (fun w ↦ w.any isOutput)) then
        Run.setStatus 0
      keepingChannels do
        if ← redirectAll (substitute fuel) redirects then
          let set ← assign false
          if !set.isEmpty then
            trace errors set
        else
          Run.setStatus misuseStatus
    | [['e', 'x', 'e', 'c']] =>
      if ← redirectAll (substitute fuel) redirects then
        trace errors ((← assign false) ++ ["exec".toList])
        Run.setStatus 0
      else
        throw (.exit misuseStatus)
    | name :: arguments => keepingChannels do
      let text := String.ofList name
      let special := (Builtin.special.lookup text).isSome || ["eval", "exec", "."].contains text
      if !(← redirectAll (substitute fuel) redirects) then
        if special then throw (.exit misuseStatus) else Run.setStatus misuseStatus
      else
        trace errors ((← assign true) ++ name :: arguments)
        runNamed fuel true text name arguments
        if !special && !assignments.isEmpty then
          let names := assignments.map Prod.fst
          Run.changeShell fun s ↦
            { s with
              exported := s.exported.filter fun name ↦
                outer.exported.contains name || !names.contains name
              bindings := names.foldl
                (fun bindings name ↦
                  match outer.bindings.get? name with
                  | some value => bindings.set name value
                  | none => bindings.erase name)
                s.bindings }

/-- Run a command by its name; commands of one's own may be passed over. -/
def runNamed (fuel : Nat) (own : Bool) (text : String) (name : Str) (arguments : List Str) :
    Run Unit :=
  match fuel with
  | 0 => throw .endless
  | fuel + 1 => do
    let body := (← Run.shell).commands.get? name
    match Builtin.special.lookup text, if own then body else none with
    | some action, _ => Run.setStatus (← action arguments)
    | none, some body => runOwn fuel arguments body
    | none, none =>
      match Builtin.regular.lookup text, text with
      | some action, _ => Run.setStatus (← action arguments)
      | none, "eval" =>
        let line := (← Run.shell).line
        Run.setStatus 0
        runScript fuel { rest := [' '].intercalate arguments, line }
      | none, "." => runFile fuel arguments
      | none, "command" => runPlain fuel arguments
      | none, "type" => describeNames arguments
      | none, "kill" => runKill fuel arguments
      | none, "exec" => runInPlace fuel arguments
      | none, _ => runProgram fuel text name arguments

/-- Run a command that the script has defined. -/
def runOwn (fuel : Nat) (arguments : List Str) (body : Command) : Run Unit :=
  match fuel with
  | 0 => throw .endless
  | fuel + 1 => do
    let outer ← Run.shell
    Run.changeShell fun s ↦ { s with arguments, locals := [], loops := 0 }
    try
      runCommand fuel false body
    catch
      | .back status => Run.setStatus status
      | halt => throw halt
    Run.changeShell fun s ↦
      { s with
        arguments := outer.arguments
        locals := outer.locals
        loops := outer.loops
        bindings := s.locals.foldl
          (fun bindings (name, old) ↦
            match old with
            | some value => bindings.set name value
            | none => bindings.erase name)
          s.bindings }

/-- Run the script in a file, in this shell. -/
def runFile (fuel : Nat) (arguments : List Str) : Run Unit :=
  match fuel with
  | 0 => throw .endless
  | fuel + 1 => do
    match arguments with
    | [] => Run.fatal ".: filename argument required".toList
    | file :: _ =>
      let work : Workplace := ⟨(← Run.shell).here, (← Run.machine).files, Supply.none⟩
      match work.read file with
      | .error _ => Run.fatal (".: cannot open ".toList ++ file ++ ": No such file".toList)
      | .ok supply =>
        Run.setStatus 0
        try
          runScript fuel { rest := supply.bytes }
        catch
          | .back status => Run.setStatus status
          | halt => throw halt

/-- Run a command that is none of one's own, or say what a name stands for. -/
def runPlain (fuel : Nat) (arguments : List Str) : Run Unit :=
  match fuel with
  | 0 => throw .endless
  | fuel + 1 => do
    match arguments with
    | [] => Run.setStatus 0
    | ['-', 'v'] :: names =>
      let found ← (names.take 1).mapM whereIs
      found.forM fun place ↦ Run.print ((place.map (· ++ ['\n'])).getD [])
      Run.setStatus (if found.all Option.isSome then 0 else notFoundStatus)
    | ['-', 'V'] :: names => describeNames (names.take 1)
    | name :: arguments => runNamed fuel false (String.ofList name) name arguments

/-- Send a signal; only the process itself can be reached. -/
def runKill (fuel : Nat) (arguments : List Str) : Run Unit :=
  match fuel with
  | 0 => throw .endless
  | fuel + 1 => do
    let (signal, targets) := match arguments with
      | ['-', 's'] :: name :: more => (Builtin.signalName? name, more)
      | ('-' :: name) :: more => (Builtin.signalName? name, more)
      | more => (some "TERM", more)
    match signal with
    | none =>
      Run.complain "kill: invalid signal number or name".toList
      Run.setStatus misuseStatus
    | some signal =>
      let process := (← Run.shell).process
      if targets = [Str.ofNat process] then
        let trapped := (← Run.shell).traps.get? signal.toList
        match trapped with
        | some action =>
          if signal = "KILL" then
            throw (.killed process (Builtin.signalNumber signal))
          let line := (← Run.shell).line
          runScript fuel { rest := action, line }
          Run.setStatus 0
        | none =>
          if ["EXIT", "CHLD", "CONT", "URG", "WINCH"].contains signal then
            Run.setStatus 0
          else if ["STOP", "TSTP", "TTIN", "TTOU"].contains signal then
            throw .endless
          else
            throw (.killed process (Builtin.signalNumber signal))
      else
        Run.complain "kill: No such process".toList
        Run.setStatus 1

/-- Run a program in place of the shell; without one only the redirections stay. -/
def runInPlace (fuel : Nat) (arguments : List Str) : Run Unit :=
  match fuel with
  | 0 => throw .endless
  | fuel + 1 => do
    match arguments with
    | [] => return ()
    | name :: arguments =>
      let text := String.ofList name
      Run.changeShell fun s ↦ { s with traps := .empty }
      match Builtin.regular.lookup text with
      | some action =>
        if alsoPrograms.contains text then
          throw (.exit (← action arguments))
      | none => pure ()
      if (Tool.find? text).isSome || shellNames.contains text then
        runProgram fuel text name arguments
        throw (.exit (← Run.shell).status)
      Run.complain ("exec: ".toList ++ name ++ ": not found".toList)
      throw (.exit notFoundStatus)

/-- Run a tool or another shell. -/
def runProgram (fuel : Nat) (text : String) (name : Str) (arguments : List Str) : Run Unit :=
  match fuel with
  | 0 => throw .endless
  | fuel + 1 => do
    match Tool.find? text with
    | some tool => Run.setStatus (← runTool tool arguments)
    | none =>
      if shellNames.contains text then
        runChild fuel (readShellCall name arguments)
      else
        Run.complain (name ++ ": not found".toList)
        Run.setStatus notFoundStatus

/-- Run a shell as a process of its own; it is given what is given on, and it can be killed. -/
def runChild (fuel : Nat) (call : ShellCall) : Run Unit :=
  match fuel with
  | 0 => throw .endless
  | fuel + 1 => do
    let outer ← Run.shell
    let process := outer.process + 1
    let given := outer.exported.filterMap fun name ↦
      (outer.bindings.get? name).map fun value ↦ (name, value)
    try
      Run.isolated do
        Run.changeShell fun s ↦
          { s with
            process
            bindings := given.foldl (fun bindings (name, value) ↦ bindings.set name value)
              firstVariables }
        runShell fuel call
    catch
      | .killed killed signal =>
        if killed = process then
          Run.changeShell fun _ ↦ outer
          Run.emit 2 { bytes := ((killWords.lookup signal).map (· ++ "\n")).getD "" |>.toList }
          Run.setStatus (128 + signal)
        else
          throw (.killed killed signal)
      | halt => throw halt

/-- Run a shell from its start to its end. -/
def runShell (fuel : Nat) (call : ShellCall) : Run Unit :=
  match fuel with
  | 0 => throw .endless
  | fuel + 1 => do
    Run.changeShell fun s ↦
      { name := call.name
        arguments := call.arguments
        here := s.here
        channels := s.channels
        bindings := s.bindings.set "IFS".toList [' ', '\t', '\n']
        switches := call.switches
        exported := s.exported
        process := s.process }
    let refuse (why : Str) : Run Unit := do
      Run.emit 2 { bytes := call.own ++ ": 0: ".toList ++ why ++ ['\n'] }
      throw (.exit misuseStatus)
    try
      match call.source with
      | .given script => runScript fuel { rest := script }
      | .input =>
        let supply ← Run.inputOf 0
        Run.setInput 0 Supply.none
        runScript fuel { rest := supply.bytes }
      | .fault why => refuse why
      | .file name =>
        let work : Workplace := ⟨(← Run.shell).here, (← Run.machine).files, Supply.none⟩
        match work.read name with
        | .ok supply => runScript fuel { rest := supply.bytes }
        | .error .isDirectory => return ()
        | .error _ => refuse ("cannot open ".toList ++ name ++ ": No such file".toList)
    catch
      | .exit status | .back status => Run.setStatus status
      | .leave _ | .again _ => pure ()
      | halt => throw halt
    match (← Run.shell).traps.get? "EXIT".toList with
    | none => return ()
    | some action =>
      let status := (← Run.shell).status
      Run.changeShell fun s ↦ { s with traps := .empty }
      runScript fuel { rest := action }
      Run.setStatus status

end

end RonWorkbench.Shell.Execution
