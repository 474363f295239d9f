import RonWorkbench.Shell.Tool.Basic

/-!
# Tools that change files

Making, copying, moving and removing files and directories. Each complains of an operand that it
cannot do its work on, and goes on with the next.
-/

namespace RonWorkbench.Shell.Tool

/-- Do a work on each operand; what fails is complained of. -/
def eachOperand (w : Workplace) (operands : List Str)
    (act : Files → Str → Except Str Files) : Work :=
  operands.foldl
    (fun work name ↦
      match act work.files name with
      | .ok files => { work with files }
      | .error complaint =>
        { work with complaints := work.complaints ++ complaint ++ ['\n'], status := 1 })
    w.idle

/-- A complaint of a tool about an operand. -/
def complain (tool action : String) (name : Str) (fault : PathFault) : Str :=
  s!"{tool}: {action} ".toList ++ quote name ++ ": ".toList ++ describe fault

/-- The path that an operand names. -/
def locate (here : Path) (files : Files) (name : Str) : Except PathFault Path :=
  files.resolve here (Str.text name)

/-- A path leads to a file or a directory. -/
def isThere (files : Files) (path : Path) : Bool :=
  (files.get? path).isSome || files.isDirectory path

/-- Remove files, and directories too if asked. -/
def rm : Tool := fun w arguments ↦
  let (options, operands) := splitOptions arguments
  let given := letters options
  match stranger? "rRfiv" options with
  | some c => unknownOption w "rm" c
  | none =>
    if operands.isEmpty ∧ !given.contains 'f' then
      missingOperand w "rm"
    else
      eachOperand w operands fun files name ↦
        let failed (fault : PathFault) : Except Str Files :=
          .error (complain "rm" "cannot remove" name fault)
        match locate w.here files name with
        | .error .missing => if given.contains 'f' then .ok files else failed .missing
        | .error fault => failed fault
        | .ok path =>
          if files.isDirectory path then
            if given.contains 'r' || given.contains 'R' then .ok (files.unlinkAll path)
            else failed .isDirectory
          else if (files.get? path).isSome then
            .ok (files.unlink path)
          else if given.contains 'f' then
            .ok files
          else
            failed .missing

/-- Make directories, and those above them too if asked. -/
def mkdir : Tool := fun w arguments ↦
  let (options, operands) := splitOptions arguments
  let given := letters options
  match stranger? "p" options with
  | some c => unknownOption w "mkdir" c
  | none =>
    if operands.isEmpty then
      missingOperand w "mkdir"
    else
      eachOperand w operands fun files name ↦
        let failed (fault : PathFault) : Except Str Files :=
          .error (complain "mkdir" "cannot create directory" name fault)
        if given.contains 'p' then
          let start : Path := if name.head? = some '/' then [] else w.here
          let steps := (Files.names (Str.text name)).filter fun n ↦ n != "" && n != "."
          let path := start ++ steps
          if files.isDirectory path then .ok files
          else if (files.get? path).isSome then failed .exists
          else .ok (files.set path .directory)
        else
          match locate w.here files name with
          | .error fault => failed fault
          | .ok path =>
            if isThere files path then failed .exists else .ok (files.set path .directory)

/-- Remove empty directories. -/
def rmdir : Tool := fun w arguments ↦
  let (options, operands) := splitOptions arguments
  match stranger? "p" options with
  | some c => unknownOption w "rmdir" c
  | none =>
    if operands.isEmpty then
      missingOperand w "rmdir"
    else
      eachOperand w operands fun files name ↦
        let failed (fault : PathFault) : Except Str Files :=
          .error (complain "rmdir" "failed to remove" name fault)
        match locate w.here files name with
        | .error fault => failed fault
        | .ok path =>
          if files.hasBelow path then failed .notEmpty
          else if files.isDirectory path then .ok (files.unlink path)
          else if (files.get? path).isSome then failed .notDirectory
          else failed .missing

/-- Make files that are not there. -/
def touch : Tool := fun w arguments ↦
  let (_, operands) := splitOptions arguments
  if operands.isEmpty then
    w.fails "touch: missing file operand\nTry 'touch --help' for more information.".toList 1
  else
    eachOperand w operands fun files name ↦
      match locate w.here files name with
      | .error fault => .error (complain "touch" "cannot touch" name fault)
      | .ok path =>
        if isThere files path then .ok files
        else if files.isDirectory path.dropLast then .ok (files.set path (.file []))
        else .error (complain "touch" "cannot touch" name .missing)

/-- The place that a file is brought to: itself, or one of its own name within a directory. -/
def placeFor (files : Files) (source target : Path) : Path :=
  if files.isDirectory target then target ++ [source.getLast?.getD ""] else target

/-- Sources and target of a tool that brings the former to the latter. -/
def bring (w : Workplace) (tool : String) (operands : List Str)
    (act : Files → Str → Path → Path → Except Str Files) : Work :=
  let refuse (what : Str) : Work :=
    w.fails (s!"{tool}: missing ".toList ++ what
      ++ s!"\nTry '{tool} --help' for more information.".toList) 1
  match operands.reverse with
  | [] => refuse "file operand".toList
  | [only] => refuse ("destination file operand after ".toList ++ quote only)
  | target :: sources =>
    eachOperand w sources.reverse fun files name ↦
      match locate w.here files name, locate w.here files target with
      | .error fault, _ => .error (complain tool "cannot stat" name fault)
      | .ok source, .ok place =>
        if isThere files source then
          let place := placeFor files source place
          if !files.isDirectory place.dropLast then
            .error (complain tool "cannot create regular file" target .missing)
          else if source = place then
            .error (s!"{tool}: ".toList ++ quote name ++ " and ".toList ++ quote target
              ++ " are the same file".toList)
          else
            act files name source place
        else
          .error (complain tool "cannot stat" name .missing)
      | .ok _, .error fault => .error (complain tool "cannot create regular file" target fault)

/-- The files below a path, brought below another. -/
def transplant (files : Files) (source place : Path) : Files :=
  files.entries.foldl
    (fun files e ↦
      if source.isPrefixOf e.1 then files.set (place ++ e.1.drop source.length) e.2 else files)
    (if files.isDirectory source then files.set place .directory else files)

/-- Copy files, and directories too if asked. -/
def cp : Tool := fun w arguments ↦
  let (options, operands) := splitOptions arguments
  let given := letters options
  match stranger? "rRpfa" options with
  | some c => unknownOption w "cp" c
  | none =>
    bring w "cp" operands fun files name source place ↦
      if files.isDirectory source ∧ !given.any "rRa".toList.contains then
        .error ("cp: -r not specified; omitting directory ".toList ++ quote name)
      else
        .ok (transplant files source place)

/-- Move files and directories. -/
def mv : Tool := fun w arguments ↦
  let (options, operands) := splitOptions arguments
  match stranger? "fn" options with
  | some c => unknownOption w "mv" c
  | none =>
    bring w "mv" operands fun files _ source place ↦
      .ok ((transplant (files.unlinkAll place) source place).unlinkAll source)

/-- The names in directories, and files as they are named. -/
def ls : Tool := fun w arguments ↦
  let (options, operands) := splitOptions arguments
  let hidden := (letters options).contains 'a' || (letters options).contains 'A'
  let names := if operands.isEmpty then [['.']] else operands
  let listed := names.map fun name ↦
    match locate w.here w.files name with
    | .error fault => (([] : Str), complain "ls" "cannot access" name fault ++ ['\n'])
    | .ok path =>
      if w.files.isDirectory path then
        let shown := (w.files.children path).filter fun n ↦ hidden || n.toList.head? != some '.'
        (shown.flatMap fun n ↦ Str.ofText n ++ ['\n'], [])
      else if (w.files.get? path).isSome then
        (name ++ ['\n'], [])
      else
        ([], complain "ls" "cannot access" name .missing ++ ['\n'])
  let complaints := listed.flatMap Prod.snd
  { w.idle with
    output := { bytes := listed.flatMap Prod.fst }
    complaints
    status := if complaints.isEmpty then 0 else 2 }

/-- Copy the input to the output and to files. -/
def tee : Tool := fun w arguments ↦
  let (options, operands) := splitOptions arguments
  let given := letters options
  let work := eachOperand w operands fun files name ↦
    let before := if given.contains 'a' then (files.read w.here (Str.text name)).toOption.getD []
      else []
    match files.target w.here (Str.text name) with
    | .ok path => .ok (files.set path (.file (before ++ Str.bytes w.input.bytes)))
    | .error fault => .error ("tee: ".toList ++ name ++ ": ".toList ++ describe fault)
  { work with output := w.input, input := Supply.none }

end RonWorkbench.Shell.Tool
