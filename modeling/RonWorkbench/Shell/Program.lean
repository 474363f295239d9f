import RonWorkbench.Shell.Builtin
import RonWorkbench.Shell.Tool.Table

/-!
# Calling programs

What is done around a command: its file descriptors are redirected, a tool is run on them, the
arguments of a shell are read, and a name is looked up.
-/

namespace RonWorkbench.Shell.Execution

/-- Run something and then put file descriptors back, however it ends. -/
def keepingChannels (body : Run Unit) : Run Unit := do
  let channels := (← Run.shell).channels
  try
    body
  finally
    Run.changeShell fun s ↦ { s with channels }

/-! ### Redirections -/

/-- The descriptor that a special file stands for, if the name is that of one. -/
def specialDescriptor? (name : String) : Option Nat :=
  match name with
  | "/dev/stdin" => some 0
  | "/dev/stdout" => some 1
  | "/dev/stderr" => some 2
  | _ =>
    let start := "/dev/fd/".toList
    if start.isPrefixOf name.toList then Str.nat? (name.toList.drop start.length) else none

/-- Open a file to read. -/
def openToRead (name : Str) : Run (Option Channel) := do
  match specialDescriptor? (String.ofList name) with
  | some n => return (← Run.shell).channels.get? n
  | none =>
    let work : Workplace := ⟨(← Run.shell).here, (← Run.machine).files, Supply.none⟩
    match work.read name with
    | .ok supply => return some (← Run.openInput supply)
    | .error _ =>
      Run.complain ("cannot open ".toList ++ name ++ ": No such file".toList)
      return none

/-- Open a file to write, anew or at its end. -/
def openToWrite (anew : Bool) (name : Str) : Run (Option Channel) := do
  match String.ofList name, specialDescriptor? (String.ofList name) with
  | "/dev/null", _ => return some .nowhere
  | _, some n => return (← Run.shell).channels.get? n
  | _, none =>
    let failed (why : String) : Run (Option Channel) := do
      Run.complain ("cannot create ".toList ++ name ++ ": ".toList ++ why.toList)
      return none
    let files := (← Run.machine).files
    match files.resolve (← Run.shell).here (Str.text name) with
    | .error .nameTooLong => failed PathFault.nameTooLong.message
    | .error _ => failed "Directory nonexistent"
    | .ok path =>
      if files.isDirectory path then
        failed PathFault.isDirectory.message
      else if !files.isDirectory path.dropLast then
        failed "Directory nonexistent"
      else
        match files.get? path with
        | some (.file _) => if anew then Run.setFiles (files.set path (.file []))
        | _ => Run.setFiles (files.set path (.file []))
        return some (.file path)

/-- Redirect one file descriptor; a failure is complained of. -/
def redirect (substitute : Str → Run Str) (r : Redirect) : Run Bool := do
  let target ← Expansion.whole substitute r.target
  let put (channel : Option Channel) : Run Bool := do
    match channel with
    | some channel =>
      Run.changeShell fun s ↦ { s with channels := s.channels.set r.descriptor channel }
      return true
    | none => return false
  match r.how with
  | .document => put (some (← Run.openInput { bytes := target }))
  | .read => put (← openToRead target)
  | .write => put (← openToWrite true target)
  | .append | .update => put (← openToWrite false target)
  | .duplicate =>
    if target = ['-'] then
      Run.changeShell fun s ↦ { s with channels := s.channels.erase r.descriptor }
      return true
    else
      match (Str.nat? target).bind (← Run.shell).channels.get? with
      | some channel => put (some channel)
      | none =>
        Run.complain (target ++ ": Bad file descriptor".toList)
        return false

/-- Redirect file descriptors in order, up to one that fails. -/
def redirectAll (substitute : Str → Run Str) : List Redirect → Run Bool
  | [] => return true
  | r :: more => do
    if ← redirect substitute r then redirectAll substitute more else return false

/-! ### Tools -/

/-- Run a tool on the shell's input, output and files. -/
def runTool (tool : Tool) (arguments : List Str) : Run Nat := do
  let input ← Run.inputOf 0
  let work := tool ⟨(← Run.shell).here, (← Run.machine).files, input⟩ arguments
  Run.setInput 0 work.input
  Run.setFiles work.files
  Run.emit 2 { bytes := work.complaints }
  Run.wait work.pause
  Run.emit 1 work.output
  return work.status

/-- The names by which a shell can be started. -/
def shellNames : List String :=
  ["sh", "/bin/sh", "/usr/bin/sh"]

/-- The directory that programs are found in first. -/
def programDirectory : String := "/usr/bin/"

/-- The commands of a shell that are programs too. -/
def alsoPrograms : List String :=
  ["echo", "printf", "test", "[", "pwd", "true", "false", "kill"]

/-- Where the script of a shell is. -/
inductive Source
  /-- It is an argument. -/
  | given (script : Str)
  /-- It is in a file. -/
  | file (name : Str)
  /-- It is the input. -/
  | input
  /-- It cannot be had. -/
  | fault (why : Str)

/-- How a shell is called: the name that it was started by, and what it makes of its arguments. -/
structure ShellCall where
  own : Str
  source : Source
  name : Str := own
  arguments : List Str := []
  switches : Str := []

/-- Read the arguments of a shell of a given name. -/
def readShellCall (own : Str) (words : List Str) : ShellCall :=
  match Builtin.readSwitches ['c', 'l'] [] words with
  | .error option => { own, source := .fault ("Illegal option ".toList ++ option) }
  | .ok (switches, behind) =>
    let behind := if behind.head? = some ['-'] ∨ behind.head? = some ['-', '-'] then behind.drop 1
      else behind
    let kept := switches.filter fun c ↦ c ≠ 'c' && c ≠ 'l'
    if switches.contains 'c' then
      match behind with
      | [] => { own, source := .fault "-c requires an argument".toList }
      | script :: more =>
        { own
          source := .given script
          name := more.head?.getD own
          arguments := more.drop 1
          switches := kept }
    else
      match behind with
      | file :: more =>
        if switches.contains 's' then
          { own, source := .input, arguments := behind, switches := kept }
        else
          { own, source := .file file, name := file, arguments := more, switches := kept }
      | [] => { own, source := .input, switches := 's' :: kept.erase 's' }

/-! ### Names -/

/-- The command that a name stands for, as `command -v` says it. -/
def whereIs (name : Str) : Run (Option Str) := do
  let text := String.ofList name
  if ((← Run.shell).commands.get? name).isSome
      || ((Builtin.special ++ Builtin.regular).lookup text).isSome
      || ["eval", "exec", ".", "command", "kill", "type"].contains text then
    return some name
  else if (Tool.find? text).isSome || shellNames.contains text then
    return some (if name.contains '/' then name else programDirectory.toList ++ name)
  else
    return none

/-- How a shell says that a program was killed. -/
def killWords : List (Nat × String) :=
  [(1, "Hangup"), (3, "Quit"), (4, "Illegal instruction"), (6, "Aborted"), (9, "Killed"),
    (10, "User defined signal 1"), (11, "Segmentation fault"), (12, "User defined signal 2"),
    (14, "Alarm clock"), (15, "Terminated")]

/-- What a name stands for, in words. -/
def describeName (name : Str) : Run (Option Str) := do
  let text := String.ofList name
  let special := (Builtin.special.lookup text).isSome || ["eval", "exec", "."].contains text
  if Reading.reservedWords.contains text then
    return some " is a shell keyword".toList
  else if special then
    return some " is a special shell builtin".toList
  else if ((← Run.shell).commands.get? name).isSome then
    return some " is a shell function".toList
  else
    return (← whereIs name).map fun place ↦
      if place = name && !name.contains '/' then " is a shell builtin".toList
      else " is ".toList ++ place

/-- Say what names stand for. -/
def describeNames (names : List Str) : Run Unit := do
  let found ← names.mapM describeName
  (names.zip found).forM fun (name, what) ↦
    Run.print (name ++ what.getD ": not found".toList ++ ['\n'])
  Run.setStatus (if found.all Option.isSome then 0 else notFoundStatus)

/-- Show a command that is about to be run. -/
def trace (channel : Option Channel) (words : List Str) : Run Unit := do
  if (← Run.shell).isOn .tracing then
    let start := (← Run.valueOf? "PS4".toList).getD ['+', ' ']
    Run.emitTo channel { bytes := start ++ [' '].intercalate words ++ ['\n'] }

end RonWorkbench.Shell.Execution
