import RonWorkbench.Keyed
import RonWorkbench.Text.Utf8

/-!
# A tree of files

The files that a run can see and change, as a value: an association of absolute paths with file
contents and directories. A path is the list of its names from the root; a written path
(`Files.resolve`) is followed name by name from a working directory, so that a missing or
misplaced directory on the way is noticed.

That a path can be followed does not mean that the file at its end can be written. What the disk has
to say to that is no part of the tree (`Disk`): it may refuse to open the file, and it may give up
when part of the content is written, which leaves that part in place of what was there.
-/

namespace RonWorkbench

/-- The names from the root to a file. -/
abbrev Path := List String

/-- What a path can lead to. -/
inductive Entry
  | file (content : List UInt8)
  | directory
  deriving Repr, DecidableEq

/-- Why a file cannot be had. -/
inductive PathFault
  | missing
  | isDirectory
  | notDirectory
  | nameTooLong
  | exists
  | notEmpty
  /-- Any other fault, by the system's number and name of it. -/
  | other (number : Nat) (name : String)
  deriving Repr, DecidableEq

namespace PathFault

/-- What the system calls the fault. -/
def message : PathFault → String
  | missing => "No such file or directory"
  | isDirectory => "Is a directory"
  | notDirectory => "Not a directory"
  | nameTooLong => "File name too long"
  | .exists => "File exists"
  | notEmpty => "Directory not empty"
  | other _ name => name

/-- The system's number of the fault. -/
def number : PathFault → Nat
  | missing => 2
  | isDirectory => 21
  | notDirectory => 20
  | nameTooLong => 36
  | .exists => 17
  | notEmpty => 39
  | other number _ => number

/-- The fault with its number, as a user is told of it. -/
def describe (f : PathFault) : String :=
  s!"{f.message} (os error {f.number})"

end PathFault

/-- What stands in the way of writing a file that can be reached. -/
inductive Hindrance
  /-- The file is not opened for writing and stays as it is. -/
  | refused (fault : PathFault)
  /-- The file is opened and emptied, and only so many bytes get into it. -/
  | cutShort (fault : PathFault) (length : Nat)
  deriving Repr, DecidableEq

/-- What stands in the way of writing a content to a path, if anything does. -/
abbrev Disk := Path → List UInt8 → Option Hindrance

/--
Paths with what they lead to; the root and what is above a path are directories without an entry.
-/
abbrev Files := Keyed Path Entry

namespace Files

/-- Some entry lies below a path. -/
def hasBelow (files : Files) (path : Path) : Bool :=
  files.entries.any fun e ↦ path.isPrefixOf e.1 && e.1 != path

/-- A path leads to a directory: it is the root, has an entry below it, or one that says so. -/
def isDirectory (files : Files) (path : Path) : Bool :=
  path.isEmpty || files.hasBelow path || files.get? path == some .directory

/-- The names directly below a path, in the order of their bytes. -/
def children (files : Files) (path : Path) : List String :=
  let below := files.entries.filterMap fun e ↦
    if path.isPrefixOf e.1 then e.1[path.length]? else none
  (below.mergeSort fun a b ↦ decide (a ≤ b)).eraseReps

/-- Make the directory above a path one of its own, which stays if the path goes. -/
def keepAbove (files : Files) (path : Path) : Files :=
  match files.get? path.dropLast with
  | some _ => files
  | none => files.set path.dropLast .directory

/-- Remove what a path leads to; the directory that it was in stays. -/
def unlink (files : Files) (path : Path) : Files :=
  (files.keepAbove path).erase path

/-- Remove what a path leads to and all that is below it. -/
def unlinkAll (files : Files) (path : Path) : Files :=
  let files := files.keepAbove path
  ⟨files.entries.filter fun e ↦ !path.isPrefixOf e.1⟩

/-! ### Written paths -/

/-- The longest name that a directory can hold, in bytes. -/
def longestName : Nat := 255

/-- The longest written path that is followed, in bytes. -/
def longestPath : Nat := 4095

/-- Where a written name leads from a directory. -/
def step (here : Path) (name : String) : Path :=
  if name = "" ∨ name = "." then
    here
  else if name = ".." then
    here.dropLast
  else
    here ++ [name]

/-- One step from a directory along a written name, if it can be taken. -/
def enter (files : Files) (here : Path) (name : String) : Except PathFault Path :=
  if longestName < name.utf8ByteSize then
    .error .nameTooLong
  else if !files.isDirectory here then
    .error (if (files.get? here).isSome then .notDirectory else .missing)
  else
    .ok (step here name)

/-- The names of a written path. -/
def names (written : String) : List String :=
  (cut written.toList).map String.ofList
where
  /-- The stretches between the slashes. -/
  cut : List Char → List (List Char)
    | [] => [[]]
    | c :: rest =>
      if c = '/' then
        [] :: cut rest
      else
        match cut rest with
        | [] => [[c]]
        | first :: more => (c :: first) :: more

/-- Follow a written path from a working directory; its last name need not lead anywhere. -/
def resolve (files : Files) (here : Path) (written : String) : Except PathFault Path :=
  if written = "" then
    .error .missing
  else if longestPath < written.utf8ByteSize then
    .error .nameTooLong
  else
    let start := if written.toList.head? = some '/' then [] else here
    (names written).foldlM (files.enter) start

/-- The content of the file at a written path. -/
def read (files : Files) (here : Path) (written : String) : Except PathFault (List UInt8) := do
  let path ← files.resolve here written
  match files.get? path with
  | some (.file content) => return content
  | _ => if files.isDirectory path then throw .isDirectory else throw .missing

/-- Where a file can be written: not at a directory, and in one that is there. -/
def target (files : Files) (here : Path) (written : String) : Except PathFault Path := do
  let path ← files.resolve here written
  if files.isDirectory path then
    throw .isDirectory
  else if !files.isDirectory path.dropLast then
    throw (if (files.get? path.dropLast).isSome then .notDirectory else .missing)
  else
    return path

/-- Write the file at a written path, as far as the disk lets it be written. -/
def write (disk : Disk) (files : Files) (here : Path) (written : String) (content : List UInt8) :
    Except PathFault Unit × Files :=
  match files.target here written with
  | .error fault => (.error fault, files)
  | .ok path =>
    match disk path content with
    | none => (.ok (), files.set path (.file content))
    | some (.refused fault) => (.error fault, files)
    | some (.cutShort fault length) =>
      (.error fault, files.set path (.file (content.take length)))

end Files

end RonWorkbench
