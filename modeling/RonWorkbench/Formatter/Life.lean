import Mathlib.Logic.Relation
import RonWorkbench.Formatter.Call

/-!
# The life of a formatter process

A `Call` takes its beginning and its end in one piece each. Here both are taken apart into what the
program does in turn (`Stage`), and in between any process of the call that is running may act:
print, change its files, end, or do nothing for good. `Life.Step` says what can happen next, in
whatever order; nothing in it says that there is one process, or that it is gone in the end.
-/

namespace RonWorkbench.Formatter

/-- How far a call is. -/
inductive Stage
  /-- The program is looked for. -/
  | locating
  /-- The scratch file is to be made. -/
  | preparing (program : String)
  /-- The scratch file is there, and the document is written to it. -/
  | filling (program : String)
  /-- The program is to be started. -/
  | launching (program : String)
  /-- The pipes are served, the time runs, and the caller may give up. -/
  | exchanging (program : String)
  /-- The process is to be killed. -/
  | killing (fault : Fault)
  /-- The end of the process is awaited. -/
  | reaping (fault : Fault)
  /-- The backup of the scratch file is to be removed. -/
  | clearing (result : Except Fault Outcome)
  /-- The scratch file is to be removed. -/
  | unlinking (result : Except Fault Outcome)
  | returned (result : Except Fault Outcome)

/-- A call at a stage. -/
structure Life where
  stage : Stage
  files : Files
  scratch : Option Path
  /-- All processes that were started, the last one first. -/
  processes : List ProcessState
  stdout : List UInt8
  stderr : List UInt8

namespace Life

/-- Before anything was done. -/
def new (files : Files) : Life :=
  { stage := .locating, files, scratch := none, processes := [], stdout := [], stderr := [] }

/-- The call as its events show it. -/
def call (options : Options) (text : List Char) (s : Life) : Call where
  options := options
  text := text
  files := s.files
  scratch := s.scratch
  started := s.processes.length
  process := s.processes.head?
  stdout := s.stdout
  stderr := s.stderr
  result :=
    match s.stage with
    | .returned result => some result
    | _ => none

/-- Why the program cannot be started, if it cannot. -/
def refusal? (host : Host) (options : Options) (program : String) (s : Life) : Option String :=
  let arguments := options.arguments (s.scratch.map renderPath)
  nulFault? arguments <|> host.refusal? program arguments

section Step

variable (host : Host) (options : Options) (text : List Char)

/-- What can happen next to a call. -/
inductive Step : Life → Life → Prop
  | notFound {s : Life} (hstage : s.stage = .locating)
      (hprogram : host.locate? options.program = none) :
      Step s { s with stage := .returned (.error (.notFound options.program)) }
  | found {s : Life} {program : String} (hstage : s.stage = .locating)
      (hprogram : host.locate? options.program = some program) :
      Step s { s with
        stage := if options.mode = .stdin then .launching program else .preparing program }
  | noScratch {s : Life} {program cause : String} (hstage : s.stage = .preparing program)
      (hscratch : host.scratch = .error cause) :
      Step s { s with stage := .returned (.error (.scratch cause)) }
  | makes {s : Life} {program : String} {path : Path} (hstage : s.stage = .preparing program)
      (hscratch : host.scratch = .ok path) :
      Step s { s with
        stage := .filling program, files := s.files.set path (.file []), scratch := some path }
  | fills {s : Life} {program : String} {path : Path} (hstage : s.stage = .filling program)
      (hscratch : s.scratch = some path) :
      Step s { s with
        stage := .launching program, files := s.files.set path (.file (Text.encode text)) }
  /-- The document cannot be written, or not all of it. -/
  | fillingFails {s : Life} {program : String} {path : Path} (cause : String)
      (written : List UInt8) (hstage : s.stage = .filling program)
      (hscratch : s.scratch = some path) :
      Step s { s with
        stage := .unlinking (.error (.scratch cause))
        files := s.files.set path (.file written) }
  | refused {s : Life} {program cause : String} (hstage : s.stage = .launching program)
      (hcause : s.refusal? host options program = some cause) :
      Step s { s with stage := .clearing (.error (.spawn program cause)) }
  | starts {s : Life} {program : String} (hstage : s.stage = .launching program)
      (hcause : s.refusal? host options program = none) :
      Step s { s with stage := .exchanging program, processes := .running :: s.processes }
  | prints {s : Life} (bytes : List UInt8) (hrunning : .running ∈ s.processes) :
      Step s { s with stdout := s.stdout ++ bytes }
  | complains {s : Life} (bytes : List UInt8) (hrunning : .running ∈ s.processes) :
      Step s { s with stderr := s.stderr ++ bytes }
  /-- A process writes its scratch file and the backup of that, and no other files. -/
  | changes {s : Life} (files : Files) (hrunning : .running ∈ s.processes)
      (hspares : (Event.changesFiles files).Spares s.files (sideFiles s.scratch)) :
      Step s { s with files }
  | ends {s : Life} (first last : List ProcessState) (status : ExitStatus)
      (hrunning : s.processes = first ++ .running :: last) :
      Step s { s with processes := first ++ .ended status :: last }
  | overflows {s : Life} {program : String} (hstage : s.stage = .exchanging program)
      (hlimit : (s.call options text).overflows = true) :
      Step s { s with stage := .killing (.outputTooLarge options.outputLimit) }
  | pipeFails {s : Life} {program : String} (cause : String)
      (hstage : s.stage = .exchanging program) :
      Step s { s with stage := .killing (.spawn program cause) }
  | collects {s : Life} {program : String} {status : ExitStatus} {others : List ProcessState}
      (hstage : s.stage = .exchanging program)
      (hended : s.processes = .ended status :: others)
      (hlimit : (s.call options text).overflows = false) :
      Step s { s with
        stage := .clearing ((s.call options text).verdict status)
        processes := .reaped :: others }
  | deadline {s : Life} {program : String} (hstage : s.stage = .exchanging program) :
      Step s { s with stage := .killing (.timedOut options.timeout) }
  | abandon {s : Life} {program : String} (hstage : s.stage = .exchanging program) :
      Step s { s with stage := .killing .cancelled }
  /-- A process that is killed ends, but not at once. -/
  | kills {s : Life} {fault : Fault} (hstage : s.stage = .killing fault) :
      Step s { s with stage := .reaping fault }
  | reaps {s : Life} {fault : Fault} {status : ExitStatus} {others : List ProcessState}
      (hstage : s.stage = .reaping fault) (hended : s.processes = .ended status :: others) :
      Step s { s with stage := .clearing (.error fault), processes := .reaped :: others }
  | clears {s : Life} {result : Except Fault Outcome} {path : Path}
      (hstage : s.stage = .clearing result) (hscratch : s.scratch = some path) :
      Step s { s with
        stage := .unlinking result, files := removeFile s.files (backupOf path) }
  | nothingToClear {s : Life} {result : Except Fault Outcome}
      (hstage : s.stage = .clearing result) (hscratch : s.scratch = none) :
      Step s { s with stage := .returned result }
  | unlinks {s : Life} {result : Except Fault Outcome} {path : Path}
      (hstage : s.stage = .unlinking result) (hscratch : s.scratch = some path) :
      Step s { s with stage := .returned result, files := removeFile s.files path }

/-- What a call can come to. -/
def Reachable (before : Files) : Life → Prop :=
  Relation.ReflTransGen (Step host options text) (new before)

end Step

end Life

end RonWorkbench.Formatter
