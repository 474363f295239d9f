import RonWorkbench.CommandLine.Run
import RonWorkbench.CommandLine.Sources
import RonWorkbench.Shell.Host

/-!
# The tool

The tool reads what its line is about from the disk into a value (`Files`), runs the line on it, and
writes what changed. Formatters are run by the shell of this library, a stand-in for the system's
programs which sees those files only.
-/

namespace RonWorkbench.CommandLine

/-- What a place holds on the disk, if anything. -/
def entryOnDisk (place : Path) : IO (Option Entry) := do
  try
    return some (.file (← IO.FS.readBinFile (Formatter.renderPath place)).toList)
  catch fault =>
    match fault with
    | .inappropriateType _ number _ =>
      return if number.toNat = PathFault.isDirectory.number then some .directory else none
    | .noFileOrDirectory .. => return none
    | other => throw other

/-- Add what the places along a written path hold on the disk. -/
def look (here : Path) (files : Files) (written : String) : IO Files :=
  (Files.stages here written).foldlM
    (fun files place ↦ do
      match ← entryOnDisk place with
      | some entry => return files.set place entry
      | none => return files)
    files

/-- The files that a line is about, as they are on the disk. -/
def filesOnDisk (here : Path) (words : List String) : IO Files :=
  match read words with
  | .ok invocation => invocation.sources.foldlM (look here) (Keyed.empty.set here .directory)
  | .error _ => return Keyed.empty

/-- The place of the scratch file. -/
def scratch : Path := ["tmp", "ron-scratch"]

/-- Format on the machine of this library. -/
def reformat (here : Path) : Reformat := fun options text files ↦
  Formatter.format (Shell.host here scratch) options text none files

/-- Run a line on the disk: what it prints, what it writes, and its exit code. -/
def runOnDisk (words : List String) : IO UInt32 := do
  let here := (Files.names (← IO.currentDir).toString).filter (· ≠ "")
  let files ← filesOnDisk here words
  let report := run (reformat here) files here words
  for (place, content) in Files.changes files report.files do
    IO.FS.writeBinFile (Formatter.renderPath place) ⟨content.toArray⟩
  IO.print (String.ofList report.output)
  IO.eprint (String.ofList report.errors)
  return report.code.toUInt32

end RonWorkbench.CommandLine

/-- The tool. -/
def main (words : List String) : IO UInt32 :=
  RonWorkbench.CommandLine.runOnDisk words
