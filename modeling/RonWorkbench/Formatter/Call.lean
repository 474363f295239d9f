import RonWorkbench.Bits
import RonWorkbench.Files
import RonWorkbench.Formatter.Fault
import RonWorkbench.Formatter.Options
import RonWorkbench.Formatter.Outcome
import RonWorkbench.Text.Blank

/-!
# A call of the formatter

A call is a state that is moved by events. Some events are the formatter's own: it prints, it
changes files, it ends. Others are the host's: it gets to look at the pipes, the time is up, the
caller gives up. They can come in any order, and `Call.step` says what each does; a call that has
returned is not moved by any.

The shape is chosen so that what must hold whatever the order can be read off the state:

* `Call.process` says whether the one process of the call is running, has ended, or has been
  reaped, and `Call.started` counts the processes that were started;
* a call returns only through `Call.finish`, which reaps the process and removes the scratch file
  and its backup.

Which fault wins is decided in one place (`Call.verdict`): too much output, then the reported
failure, then output that is no text.
-/

namespace RonWorkbench.Formatter

/-- How a process ended. -/
inductive ExitStatus
  | code (n : Nat)
  /-- A signal ended it, which may have left an image of its memory. -/
  | signal (n : Nat) (coreDumped : Bool)
  deriving Repr, DecidableEq

namespace ExitStatus

/-- The names of the signals that end a process. -/
def signalNames : List (Nat × String) :=
  [(1, "SIGHUP"), (2, "SIGINT"), (3, "SIGQUIT"), (4, "SIGILL"), (5, "SIGTRAP"), (6, "SIGABRT"),
    (7, "SIGBUS"), (8, "SIGFPE"), (9, "SIGKILL"), (10, "SIGUSR1"), (11, "SIGSEGV"),
    (12, "SIGUSR2"), (13, "SIGPIPE"), (14, "SIGALRM"), (15, "SIGTERM"), (16, "SIGSTKFLT"),
    (17, "SIGCHLD"), (18, "SIGCONT"), (19, "SIGSTOP"), (20, "SIGTSTP"), (21, "SIGTTIN"),
    (22, "SIGTTOU"), (23, "SIGURG"), (24, "SIGXCPU"), (25, "SIGXFSZ"), (26, "SIGVTALRM"),
    (27, "SIGPROF"), (28, "SIGWINCH"), (29, "SIGIO"), (30, "SIGPWR"), (31, "SIGSYS")]

/-- The process ended well. -/
def isSuccess : ExitStatus → Bool
  | code 0 => true
  | _ => false

/-- The status in words. -/
def describe : ExitStatus → String
  | code n => s!"exit status: {n}"
  | signal n coreDumped =>
    let name := ((signalNames.lookup n).map fun name ↦ s!" ({name})").getD ""
    s!"signal: {n}{name}" ++ if coreDumped then " (core dumped)" else ""

end ExitStatus

/-- What happens during a call. -/
inductive Event
  /-- The formatter prints. -/
  | prints (bytes : List UInt8)
  /-- The formatter writes to its error output. -/
  | complains (bytes : List UInt8)
  /-- The formatter has changed the files to these. -/
  | changesFiles (files : Files)
  /-- The formatter ends. -/
  | ends (status : ExitStatus)
  /-- The host looks at the pipes and at the process. -/
  | exchange
  /-- The time for the call is up. -/
  | deadline
  /-- The caller gives up. -/
  | abandon
  deriving Repr, DecidableEq

/--
The event changes no files but some that are set aside, and of these it neither makes a directory
nor takes one away.
-/
def Event.Spares (before : Files) (aside : List Path) : Event → Prop
  | .changesFiles after =>
    (∀ path, path ∉ aside → after.get? path = before.get? path) ∧
      ∀ path ∈ aside, after.get? path = some .directory ↔ before.get? path = some .directory
  | _ => True

/-- The machine on which formatters run. -/
structure Host where
  /-- Where a program is, if it can be found. -/
  locate? : String → Option String
  /-- Where the next scratch file can be made, or why none can. -/
  scratch : Except String Path
  /-- Why the system refuses to start a program with these arguments, if it does. -/
  refusal? : String → List String → Option String
  /-- What a program does with its arguments, its input and the files, at which milliseconds. -/
  behaviour : String → List String → Option (List UInt8) → Files → List (Nat × Event)

/-- The process of a call. -/
inductive ProcessState
  | running
  | ended (status : ExitStatus)
  | reaped
  deriving Repr, DecidableEq

/-- A call under way or returned. -/
structure Call where
  options : Options
  text : List Char
  files : Files
  scratch : Option Path
  started : Nat
  process : Option ProcessState
  stdout : List UInt8
  stderr : List UInt8
  result : Option (Except Fault Outcome)

/-- A path as programs are given it. -/
def renderPath (path : Path) : String :=
  "/" ++ "/".intercalate path

/-- The backup that a formatter leaves beside its file. -/
def backupOf (path : Path) : Path :=
  path.dropLast ++ [(path.getLast?.getD "") ++ ".bak"]

/-- The places of a scratch copy and of its backup, if there is a scratch copy. -/
def sideFiles : Option Path → List Path
  | some path => [path, backupOf path]
  | none => []

/-- Remove a path if it leads to a file. -/
def removeFile (files : Files) (path : Path) : Files :=
  match files.get? path with
  | some (.file _) => files.erase path
  | _ => files

/-- Why no process can be given these arguments: none of them can hold a NUL. -/
def nulFault? (arguments : List String) : Option String :=
  if arguments.any fun a ↦ a.toList.contains '\x00' then
    some "nul byte found in provided data"
  else
    none

namespace Call

/-- A call before anything was made or started. -/
def new (files : Files) (options : Options) (text : List Char) : Call :=
  { options, text, files, scratch := none, started := 0, process := none, stdout := [],
    stderr := [], result := none }

/-- Return with a result: the process is reaped, the scratch file and its backup are removed. -/
def finish (c : Call) (result : Except Fault Outcome) : Call :=
  { c with
    files := match c.scratch with
      | some path => removeFile (removeFile c.files (backupOf path)) path
      | none => c.files
    process := c.process.map fun _ ↦ .reaped
    result := some result }

/-- Start the program found at a path. -/
def launch (host : Host) (c : Call) (program : String) (file : Option String) : Call :=
  let arguments := c.options.arguments file
  match nulFault? arguments <|> host.refusal? program arguments with
  | some cause => c.finish (.error (.spawn program cause))
  | none => { c with started := c.started + 1, process := some .running }

/-- Begin a call: find the program, make the scratch file if one is needed, start the program. -/
def start (host : Host) (files : Files) (options : Options) (text : List Char) : Call :=
  let c := new files options text
  match host.locate? options.program with
  | none => c.finish (.error (.notFound options.program))
  | some program =>
    match options.mode with
    | .stdin => c.launch host program none
    | .tempFile =>
      match host.scratch with
      | .error cause => c.finish (.error (.scratch cause))
      | .ok path =>
        launch host
          { c with files := files.set path (.file (Text.encode text)), scratch := some path }
          program (some (renderPath path))

/-- More was written to one of the pipes than the call allows. -/
def overflows (c : Call) : Bool :=
  decide (c.options.outputLimit < c.stdout.length)
    || decide (c.options.outputLimit < c.stderr.length)

/-- What a failed formatter has to say: its error output, or else how it ended. -/
def complaint (stderr : List UInt8) (status : ExitStatus) : String :=
  match Text.trim (Text.decodeLossy stderr) with
  | [] => s!"formatter exited with {status.describe}"
  | words => String.ofList words

/-- The result of a process that has ended. -/
def verdict (c : Call) (status : ExitStatus) : Except Fault Outcome :=
  if c.overflows then
    .error (.outputTooLarge c.options.outputLimit)
  else if !status.isSuccess then
    .error (.failed (complaint c.stderr status))
  else
    match Text.decode? c.stdout with
    | none => .error .invalidUtf8
    | some output => .ok (.ofOutput c.text output)

/-- The host looks: too much output or the end of the process ends the call. -/
def look (c : Call) : Call :=
  match c.process with
  | some (.ended status) => c.finish (c.verdict status)
  | _ => if c.overflows then c.finish (.error (.outputTooLarge c.options.outputLimit)) else c

/-- What the running formatter does. -/
def act (c : Call) : Event → Call
  | .prints bytes => { c with stdout := c.stdout ++ bytes }
  | .complains bytes => { c with stderr := c.stderr ++ bytes }
  | .changesFiles files => { c with files }
  | .ends status => { c with process := some (.ended status) }
  | _ => c

/-- One event of a call that has not returned; only a running formatter acts. -/
def move (c : Call) : Event → Call
  | .exchange => c.look
  | .deadline => c.finish (.error (.timedOut c.options.timeout))
  | .abandon => c.finish (.error .cancelled)
  | event => if c.process = some .running then c.act event else c

/-- One event; nothing moves a call that has returned. -/
def step (c : Call) (event : Event) : Call :=
  if c.result.isSome then c else c.move event

/-- The events of a call one after another. -/
def run (c : Call) (events : List Event) : Call :=
  events.foldl step c

end Call

/-! ### Pipes that are not read to their end -/

/-- What a formatter prints up to its end, and how it ends. -/
structure Printout where
  stdout : List UInt8
  stderr : List UInt8
  status : ExitStatus

/-- What is read from a pipe: at most one byte more than allowed, as far as a word can count. -/
def readPipe (limit : Nat) (bytes : List UInt8) : Except Fault (List UInt8) :=
  let read := bytes.take (min (limit + 1) (Bits.wordCount 64 - 1))
  if limit < read.length then .error (.outputTooLarge limit) else .ok read

/-- The result of a formatter that has ended, from what is read from its pipes. -/
def readResult (limit : Nat) (text : List Char) (out : Printout) : Except Fault Outcome := do
  let stdout ← readPipe limit out.stdout
  let stderr ← readPipe limit out.stderr
  if !out.status.isSuccess then
    throw (.failed (Call.complaint stderr out.status))
  match Text.decode? stdout with
  | none => throw .invalidUtf8
  | some output => return .ofOutput text output

/-! ### Calls on a host -/

/-- The time from a call to the first act of its formatter, in milliseconds. -/
def startupTime : Nat := 1

/--
The events of a call in order of time: what the formatter does in time, a look of the host, and the
end of the call at its deadline or when the caller gives up, whichever comes first. One look is
enough, since what was written stays written and a process that has ended stays ended.
-/
def schedule (acts : List (Nat × Event)) (timeout : Nat) (cancelAt : Option Nat) : List Event :=
  let (stop, last) :=
    match cancelAt with
    | some t => if t ≤ timeout then (t, Event.abandon) else (timeout, .deadline)
    | none => (timeout, .deadline)
  let timely := acts.takeWhile fun act ↦ decide (act.1 + startupTime ≤ stop)
  timely.map Prod.snd ++ [.exchange, last]

/-- Run the formatter on a text: the result and the files as they are left. -/
def format (host : Host) (options : Options) (text : List Char) (cancelAt : Option Nat)
    (files : Files) : Except Fault Outcome × Files :=
  let c := Call.start host files options text
  let program := (host.locate? options.program).getD ""
  let input := if options.mode = .stdin then some (Text.encode text) else none
  let acts :=
    if c.process = some .running then
      host.behaviour program (options.arguments (c.scratch.map renderPath)) input c.files
    else
      []
  let final := c.run (schedule acts options.timeout cancelAt)
  (final.result.getD (.error (.timedOut options.timeout)), final.files)

end RonWorkbench.Formatter
