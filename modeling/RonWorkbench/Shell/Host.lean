import RonWorkbench.Shell.Execution

/-!
# A machine on which formatters are tried

A stand-in for a system with programs: it has a shell and the tools of this folder, so that
formatters written as scripts can be tried. A program that it starts runs to its end, or to the end
of its steps, and what it did is handed on in order of time.

It is one `Formatter.Host` among many. What is proved of calls and of the tools that make them is
proved for every host, and nothing in the theory rests on this one or speaks of it.
-/

namespace RonWorkbench.Shell

open Formatter (Event ExitStatus)

/-- The steps that a run may take before it counts as one that does not end. -/
def stepLimit : Nat := 50000

namespace Machine

/-- Make printing after printing at one time one event. -/
def join : List (Nat × Event) → List (Nat × Event)
  | [] => []
  | first :: rest =>
    match first, join rest with
    | (t, .prints a), (u, .prints b) :: more =>
      if t = u then (t, .prints (a ++ b)) :: more else first :: (u, .prints b) :: more
    | (t, .complains a), (u, .complains b) :: more =>
      if t = u then (t, .complains (a ++ b)) :: more else first :: (u, .complains b) :: more
    | first, more => first :: more

/-- What happened, in order of time. -/
def record (m : Machine) : List (Nat × Event) :=
  join (m.events.reverse.mergeSort fun a b ↦ a.1 ≤ b.1)

end Machine

/-- The file descriptors of a program that is started: input, output and error output. -/
def standardChannels : Keyed Nat Channel :=
  ((Keyed.empty.set 0 (.input 0)).set 1 .output).set 2 .complaints

/-- The state in which a program is started. -/
def State.start (here : Path) (files : Files) (program : String) (input : Str) : State :=
  { machine := { files, inputs := Keyed.empty.set 0 { bytes := input }, next := 1 }
    shell := { name := Str.ofText program, arguments := [], here, channels := standardChannels } }

/-- Run a program: a shell, a tool, or a command of the shell that is a program too. -/
def runAsProgram (program : String) (arguments : List Str) : Run Unit :=
  let own := String.ofList ((program.toList.reverse.takeWhile (· ≠ '/')).reverse)
  if Execution.shellNames.contains program then
    Execution.runShell stepLimit (Execution.readShellCall (Str.ofText program) arguments)
  else
    Execution.runNamed stepLimit true own own.toList arguments

/-- What a program does, with the time at which it does it. -/
def behaviour (here : Path) (program : String) (arguments : List String)
    (input : Option (List UInt8)) (files : Files) : List (Nat × Event) :=
  let start := State.start here files program (Str.ofBytes (input.getD []))
  let (result, last) := (runAsProgram program (arguments.map Str.ofText)).run.run start
  let m := last.machine
  let ending (status : ExitStatus) : List (Nat × Event) :=
    m.record ++ [(max m.time m.busyUntil, .ends status)]
  match result with
  | .ok () => ending (.code last.shell.status)
  | .error (.exit status) | .error (.back status) => ending (.code status)
  | .error (.leave _) | .error (.again _) => ending (.code last.shell.status)
  | .error (.killed _ signal) => ending (.signal signal false)
  | .error .endless => m.record

/-- A program of this name is there. -/
def isProgram (name : String) : Bool :=
  name = "sh" || (Tool.table.lookup name).isSome || Execution.alsoPrograms.contains name

/-- The names of a written path with the steps back taken. -/
def straighten (written : String) : List String :=
  (Files.names written).foldl Files.step []

/-- Where a program is: under its path, or in the first directory that is looked in. -/
def locate? (name : String) : Option String :=
  if name.toList.contains '/' then
    match name.toList.head?, straighten name with
    | some '/', ["bin", program] | some '/', ["usr", "bin", program] =>
      if isProgram program && name.toList.getLast? != some '/' then some name else none
    | _, _ => none
  else if isProgram name then
    some (Execution.programDirectory ++ name)
  else
    none

/-- The machine, for a working directory and the place of the next scratch file. -/
def host (here scratch : Path) : Formatter.Host :=
  { locate?
    scratch := .ok scratch
    refusal? := fun _ _ ↦ none
    behaviour := behaviour here }

end RonWorkbench.Shell
