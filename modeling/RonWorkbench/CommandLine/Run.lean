import RonWorkbench.CommandLine.Help
import RonWorkbench.CommandLine.Reading
import RonWorkbench.Formatter.Fault
import RonWorkbench.Formatter.Outcome
import RonWorkbench.Text.Utf8

/-!
# Running a command line

A run takes the words of a line and the files, and gives an exit code, what is printed and the
files as they are left (`Report`). The formatter is a parameter: whatever makes an outcome of a text
under given options, and may change files while doing so. So are the conditions that the run has no
say in (`Conditions`).

The exit code is 0 for success, 1 for a failure or a file that is not formatted, and 2 for a line
that is not understood.
-/

namespace RonWorkbench.CommandLine

/-- What a formatter makes of a text, and the files as it leaves them. -/
abbrev Reformat :=
  Formatter.Options → List Char → Files → Except Formatter.Fault Formatter.Outcome × Files

/--
What a run has no say in: the order in which the tables of settings are gone through, and what
stands in the way of writing files.
-/
structure Conditions where
  order : Settings.Order := .written
  disk : Disk := fun _ _ ↦ none

/-- What a run leaves behind. -/
structure Report where
  code : Nat := 0
  output : List Char := []
  errors : List Char := []
  files : Files

namespace Report

/-- A run that prints a text. -/
def success (files : Files) (output : List Char) : Report :=
  { output, files }

/-- A run that fails with a line on the error output. -/
def failure (files : Files) (code : Nat) (line : String) : Report :=
  { code, errors := line.toList ++ ['\n'], files }

end Report

/-- The exit code of a failure. -/
def failureCode : Nat := 1

/-- The exit code of a line that is not understood. -/
def usageCode : Nat := 2

/-- The exit code of an interrupted run. -/
def interruptedCode : Nat := 130

/-- The text of a file, or why there is none. -/
def readSource (files : Files) (here : Path) (path : String) : Except String (List Char) :=
  match files.read here path with
  | .error fault => .error s!"Cannot read {path}: {fault.describe}"
  | .ok bytes =>
    match Text.decode? bytes with
    | some text => .ok text
    | none => .error s!"Cannot read {path}: stream did not contain valid UTF-8"

/-- The listing asked for, or else the one that is set. -/
def chosenListing (order : Settings.Order) (files : Files) (here : Path)
    (format : Option ListingFormat) : Except String ListingFormat :=
  match format with
  | some format => .ok format
  | none =>
    ((Settings.loadForCommand files here none {} order).map fun c ↦ c.listing).mapError
      Settings.LoadFault.shown

/-- List the tokens of a file; a construct left open is a warning. -/
def runTokens (conditions : Conditions) (files : Files) (here : Path) (path : String)
    (format : Option ListingFormat) : Report :=
  let work : Except String Report := do
    let format ← chosenListing conditions.order files here format
    let text ← readSource files here path
    let document := Document.ofText text
    return {
      output := document.listing format ++ ['\n']
      errors := match document.warning? with
        | some warning => warning.toList ++ ['\n']
        | none => []
      files }
  match work with
  | .ok report => report
  | .error line => .failure files failureCode line

/-- Deliver the outcome of formatting a file. -/
def deliver (disk : Disk) (here : Path) (request : FormatRequest) (text : List Char)
    (outcome : Formatter.Outcome) (files : Files) : Report :=
  match request.delivery with
  | .print => .success files (outcome.text text)
  | .check =>
    if outcome.isChanged then
      .failure files failureCode s!"{request.path} is not formatted"
    else
      .success files []
  | .rewrite =>
    match outcome with
    | .unchanged => .success files []
    | .changed result =>
      match files.write disk here request.path (Text.encode result) with
      | (.ok (), files) => .success files []
      | (.error fault, files) =>
        .failure files failureCode s!"Cannot write {request.path}: {fault.describe}"

/-- Format a file. -/
def runFormat (reformat : Reformat) (conditions : Conditions) (files : Files) (here : Path)
    (request : FormatRequest) : Report :=
  let work : Except String (Settings.Configuration × List Char) := do
    let configuration ← (Settings.loadForCommand files here request.config request.flags
      conditions.order).mapError Settings.LoadFault.shown
    return (configuration, ← readSource files here request.path)
  match work with
  | .error line => .failure files failureCode line
  | .ok (configuration, text) =>
    match reformat (configuration.formatter.toOptions none) text files with
    | (.ok outcome, files) => deliver conditions.disk here request text outcome files
    | (.error .cancelled, files) => .failure files interruptedCode "Formatting cancelled"
    | (.error fault, files) => .failure files failureCode fault.shown

/-- Do what was asked for. -/
def Invocation.run (reformat : Reformat) (conditions : Conditions) (files : Files) (here : Path) :
    Invocation → Report
  | .help topic => .success files (Help.text topic).toList
  | .version => .success files versionLine.toList
  | .tokens path listing => runTokens conditions files here path listing
  | .format request => runFormat reformat conditions files here request

/-- Run a line. -/
def run (reformat : Reformat) (files : Files) (here : Path) (words : List String)
    (conditions : Conditions := {}) : Report :=
  match read words with
  | .ok invocation => invocation.run reformat conditions files here
  | .error fault => .failure files usageCode s!"error: {fault.message}"

end RonWorkbench.CommandLine
