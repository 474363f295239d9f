import RonWorkbench.Formatter.Call
import RonWorkbench.Keyed
import RonWorkbench.Shell.Grammar
import RonWorkbench.Shell.Tool.Basic

/-!
# The state of a running script

A script runs in a shell, which has variables, arguments and file descriptors of its own
(`Session`), on a machine that it shares with the shells that it starts (`Machine`): the files, the
inputs that are read up to some place, the clock, and the record of what happened so far.

A step of a run (`Run`) changes both and may end the run of the shell or of the whole process
(`Halt`).
-/

namespace RonWorkbench.Shell

open Formatter (Event ExitStatus)

/-- Where a file descriptor leads. -/
inductive Channel
  /-- An input, by its number. -/
  | input (number : Nat)
  /-- The output of the process. -/
  | output
  /-- The error output of the process. -/
  | complaints
  /-- Nowhere. -/
  | nowhere
  /-- The end of a file. -/
  | file (path : Path)
  /-- What is gathered under a number. -/
  | gathering (number : Nat)
  deriving Repr, DecidableEq

/-- What shells share. -/
structure Machine where
  files : Files
  /-- The inputs that were opened, with what is left of them. -/
  inputs : Keyed Nat Supply := .empty
  /-- What was gathered so far. -/
  gathered : Keyed Nat Supply := .empty
  /-- The next number of an input or a gathering. -/
  next : Nat := 0
  /-- The time since the start, in milliseconds. -/
  time : Nat := 0
  /-- The time at which the last command that is not waited for ends. -/
  busyUntil : Nat := 0
  /-- What happened, the latest first. -/
  events : List (Nat × Event) := []

/-- The variables that a shell has from its start: the bytes at which fields end. -/
def firstVariables : Keyed Str Str :=
  Keyed.empty.set "IFS".toList [' ', '\t', '\n']

/-- What a shell has of its own. -/
structure Session where
  name : Str
  arguments : List Str
  here : Path
  channels : Keyed Nat Channel
  bindings : Keyed Str Str := firstVariables
  commands : Keyed Str Command := .empty
  traps : Keyed Str Str := .empty
  /-- The variables of a command of one's own, with the values that they had outside. -/
  locals : List (Str × Option Str) := []
  status : Nat := 0
  line : Nat := 1
  /-- The number of loops that are under way. -/
  loops : Nat := 0
  /-- The letters of the options that are switched on. -/
  switches : List Char := []
  /-- The variables that programs are given. -/
  exported : List Str := []
  /-- The variables that cannot be set any more. -/
  fixed : List Str := []
  /-- The number of the process. -/
  process : Nat := 1000

/-- Options of a shell. -/
inductive Switch
  /-- A command that fails ends the shell. -/
  | strict
  /-- A parameter without a value is a fault. -/
  | wary
  /-- Commands are shown before they are run. -/
  | tracing
  /-- Patterns stand for themselves. -/
  | plain
  /-- Commands are read and not run. -/
  | reading
  /-- A variable that is set is given to programs. -/
  | exporting

/-- The letter of an option. -/
def Switch.letter : Switch → Char
  | strict => 'e'
  | wary => 'u'
  | tracing => 'x'
  | plain => 'f'
  | reading => 'n'
  | exporting => 'a'

/-- An option is switched on. -/
def Session.isOn (s : Session) (w : Switch) : Bool :=
  s.switches.contains w.letter

/-- The state of a run. -/
structure State where
  machine : Machine
  shell : Session

/-- Why a run goes no further. -/
inductive Halt
  /-- The shell ends. -/
  | exit (status : Nat)
  /-- So many loops are left. -/
  | leave (loops : Nat)
  /-- So many loops but one are left, and that one goes on. -/
  | again (loops : Nat)
  /-- The body of a command of one's own is left. -/
  | back (status : Nat)
  /-- A process is killed. -/
  | killed (process signal : Nat)
  /-- The run does not end. -/
  | endless

/-- A step of a run. -/
abbrev Run := ExceptT Halt (StateM State)

/-- The exit status of a command that is not there. -/
def notFoundStatus : Nat := 127

/-- The exit status of a command that was misused. -/
def misuseStatus : Nat := 2

namespace Run

/-- The shell. -/
def shell : Run Session := do
  return (← get).shell

/-- The machine. -/
def machine : Run Machine := do
  return (← get).machine

/-- Change the shell. -/
def changeShell (f : Session → Session) : Run Unit :=
  modify fun s ↦ { s with shell := f s.shell }

/-- Change the machine. -/
def changeMachine (f : Machine → Machine) : Run Unit :=
  modify fun s ↦ { s with machine := f s.machine }

/-- Note how the last command ended. -/
def setStatus (status : Nat) : Run Unit :=
  changeShell fun s ↦ { s with status }

/-- The value of a variable. -/
def valueOf? (name : Str) : Run (Option Str) := do
  return (← shell).bindings.get? name

/-- The longest value or file that a run can make, in bytes. -/
def longestValue : Nat := 4 * 1024 * 1024

/-- A run that makes something too long never ends. -/
def checkLength (length : Nat) : Run Unit :=
  if longestValue < length then throw .endless else return ()

/-! ### Files -/

/-- Note an event. -/
def note (event : Event) : Run Unit :=
  changeMachine fun m ↦ { m with events := (m.time, event) :: m.events }

/-- Put other files in place. -/
def setFiles (files : Files) : Run Unit := do
  if (← machine).files != files then
    changeMachine fun m ↦ { m with files }
    note (.changesFiles files)

/-! ### Input and output -/

/-- How much is printed at least of what goes on for ever: more than a call usually allows. -/
def longestFlood : Nat := Formatter.defaultOutputLimit + 64 * 1024

/-- So much of what goes on for ever. -/
def flood (supply : Supply) : List UInt8 :=
  let round := Str.bytes supply.forever
  Str.bytes supply.bytes ++ (List.replicate (longestFlood / round.length + 1) round).flatten

/-- The numbers that a run can use up. -/
def mostNumbers : Nat := 20000

/-- A new number; a run that uses up too many never ends. -/
def newNumber : Run Nat := do
  let n := (← machine).next
  if mostNumbers < n then
    throw .endless
  changeMachine fun m ↦ { m with next := n + 1 }
  return n

/-- Open an input. -/
def openInput (supply : Supply) : Run Channel := do
  let n ← newNumber
  changeMachine fun m ↦ { m with inputs := m.inputs.set n supply }
  return .input n

/-- What is left of the input of a descriptor. -/
def inputOf (descriptor : Nat) : Run Supply := do
  match (← shell).channels.get? descriptor with
  | some (.input n) => return ((← machine).inputs.get? n).getD Supply.none
  | _ => return Supply.none

/-- Leave something else of the input of a descriptor. -/
def setInput (descriptor : Nat) (supply : Supply) : Run Unit := do
  match (← shell).channels.get? descriptor with
  | some (.input n) => changeMachine fun m ↦ { m with inputs := m.inputs.set n supply }
  | _ => return ()

/-- Add bytes to the end of a file, if it is still there. -/
def extend (path : Path) (s : Str) : Run Unit := do
  match (← machine).files.get? path with
  | some (.file content) =>
    checkLength (content.length + s.length)
    setFiles ((← machine).files.set path (.file (content ++ Str.bytes s)))
  | _ => return ()

/-- Write to a channel; what goes on for ever never ends unless it is gathered. -/
def emitTo (channel : Option Channel) (supply : Supply) : Run Unit := do
  let goesOn := !supply.forever.isEmpty
  let bytes := if goesOn then flood supply else Str.bytes supply.bytes
  match channel with
  | some (.gathering n) =>
    changeMachine fun m ↦
      { m with gathered := m.gathered.set n (((m.gathered.get? n).getD {}).append supply) }
  | channel =>
    if !bytes.isEmpty then
      match channel with
      | some .output => note (.prints bytes)
      | some .complaints => note (.complains bytes)
      | some (.file path) => if !goesOn then extend path supply.bytes
      | _ => pure ()
    if goesOn then
      throw .endless

/-- Write to a descriptor. -/
def emit (descriptor : Nat) (supply : Supply) : Run Unit := do
  emitTo ((← shell).channels.get? descriptor) supply

/-- Print. -/
def print (s : Str) : Run Unit :=
  emit 1 { bytes := s }

/-- Write a line of complaint, with the shell's name and the line of the script. -/
def complain (s : Str) : Run Unit := do
  let sh ← shell
  emit 2 { bytes := sh.name ++ ": ".toList ++ Str.ofNat sh.line ++ ": ".toList ++ s ++ ['\n'] }

/-- Let time pass. -/
def wait (milliseconds : Nat) : Run Unit :=
  changeMachine fun m ↦ { m with time := m.time + milliseconds }

/-- A fault that ends the shell. -/
def fatal {α : Type} (complaint : Str) : Run α := do
  complain complaint
  throw (.exit misuseStatus)

/-! ### Variables -/

/-- A variable that cannot be set is not set; a command that tries to is named. -/
def checkFixed (command : String) (name : Str) : Run Unit := do
  if (← shell).fixed.contains name then
    fatal (command.toList ++ name ++ ": is read only".toList)

/-- Give a variable to programs. -/
def giveOn (name : Str) : Run Unit :=
  changeShell fun s ↦ { s with exported := name :: s.exported.erase name }

/-- Give a variable a value. -/
def setVariable (name value : Str) : Run Unit := do
  checkFixed "" name
  changeShell fun s ↦ { s with bindings := s.bindings.set name value }
  if (← shell).isOn .exporting then
    giveOn name

/-- Run something in a shell of its own; what that shell changes of itself is lost. -/
def isolated (body : Run Unit) : Run Unit := do
  let outer ← shell
  let halt ← tryCatch (do
      body
      pure none) fun halt ↦ pure (some halt)
  let inner ← shell
  changeShell fun _ ↦ outer
  match halt with
  | none => setStatus inner.status
  | some (.exit status) | some (.back status) => setStatus status
  | some (.leave _) | some (.again _) => setStatus inner.status
  | some (.killed process signal) => throw (.killed process signal)
  | some .endless => throw .endless

/-- What something prints, run in a shell of its own. -/
def gather (body : Run Unit) : Run Supply := do
  let n ← newNumber
  isolated do
    changeShell fun s ↦ { s with channels := s.channels.set 1 (.gathering n) }
    body
  let result := ((← machine).gathered.get? n).getD {}
  changeMachine fun m ↦ { m with gathered := m.gathered.erase n }
  return result

end Run

end RonWorkbench.Shell
