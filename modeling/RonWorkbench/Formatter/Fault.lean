/-!
# Why a formatter run gives no result

The causes of a failed run and what the user is told of each. Two of them are interruptions: the
run took too long or was abandoned; whoever abandoned it is not told again.
-/

namespace RonWorkbench.Formatter

/-- Why a run gives no result. -/
inductive Fault
  /-- The program is not there. -/
  | notFound (program : String)
  /-- The program could not be started. -/
  | spawn (program cause : String)
  /-- The program reported a failure. -/
  | failed (message : String)
  /-- The program did not finish in time, given in milliseconds. -/
  | timedOut (limit : Nat)
  /-- The caller gave up. -/
  | cancelled
  /-- The program printed more bytes than allowed. -/
  | outputTooLarge (limit : Nat)
  /-- The program printed no text. -/
  | invalidUtf8
  /-- The scratch copy of the document could not be made. -/
  | scratch (cause : String)
  deriving Repr, DecidableEq

namespace Fault

/-- The fault in words. -/
def message : Fault → String
  | notFound program => s!"formatter `{program}` was not found on PATH"
  | spawn program cause => s!"could not run formatter `{program}`: {cause}"
  | failed message => message
  | timedOut limit => s!"formatter did not finish within {limit} ms"
  | cancelled => "formatting was cancelled"
  | outputTooLarge limit => s!"formatter output exceeded {limit} bytes"
  | invalidUtf8 => "formatter output is not valid UTF-8"
  | scratch cause => s!"could not prepare scratch file: {cause}"

/-- The run was stopped from outside. -/
def isInterruption : Fault → Bool
  | timedOut _ | cancelled => true
  | _ => false

/-- What a user is shown. -/
def shown (f : Fault) : String :=
  s!"RON formatter error: {f.message}"

/-- The user is to be told; a cancelled request has nobody left to tell. -/
def isNotified : Fault → Bool
  | cancelled => false
  | _ => true

end Fault

end RonWorkbench.Formatter
