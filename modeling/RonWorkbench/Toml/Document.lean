import RonWorkbench.Toml.Scalar
import RonWorkbench.Toml.Text

/-!
# Configuration files

A file is read into a tree of tables. While it is read, a table remembers how it came to be: by its
own header, as a step on the way of another header, or as a step of a key with points. A table can
have one header of its own; a table made by keys with points can be extended only by such keys; a
value, and that includes a table or an array written out in braces or brackets, cannot be extended
at all.
-/

namespace RonWorkbench.Toml

/-- How a table came to be. -/
inductive Origin
  | header
  | step
  | points
  deriving Repr, DecidableEq

/-- A table, a value or a row of tables under construction. -/
inductive Node
  | value (v : Toml)
  | table (origin : Origin) (members : List (String × Node))
  | tables (items : List (List (String × Node)))
  deriving Inhabited

namespace Node

/-- The member with a key. -/
def member? (key : String) (members : List (String × Node)) : Option Node :=
  members.lookup key

/-- Put a member in place of the one with its key, or behind all. -/
def setMember (key : String) (node : Node) : List (String × Node) → List (String × Node)
  | [] => [(key, node)]
  | (k, n) :: more => if k = key then (key, node) :: more else (k, n) :: setMember key node more

mutual

/-- The value of a finished node. -/
def toToml : Node → Toml
  | .value v => v
  | .table _ members => .table (membersToToml members)
  | .tables items => .array (itemsToToml items)

/-- The values of finished members. -/
def membersToToml : List (String × Node) → List (String × Toml)
  | [] => []
  | (key, node) :: more => (key, toToml node) :: membersToToml more

/-- The values of a finished row of tables. -/
def itemsToToml : List (List (String × Node)) → List Toml
  | [] => []
  | members :: more => .table (membersToToml members) :: itemsToToml more

end

end Node

/-- What can be wrong with a key. -/
inductive KeyFault
  | duplicate (key : String)
  | extendsValue (key : String)

/-- What the user is told of it. -/
def KeyFault.remark : KeyFault → String
  | duplicate key => s!"duplicate key `{key}`"
  | extendsValue key => s!"dotted key `{key}` attempted to extend non-table type"

/--
Go down a path of steps and change the table at its end. A row of tables stands for its last one.
Along a key with points no table may be entered that has its own header.
-/
def changeAt (origin : Origin)
    (change : Origin → List (String × Node) → Except KeyFault (List (String × Node))) :
    List String → Origin → List (String × Node) → Except KeyFault (List (String × Node))
  | [], here, members => change here members
  | key :: path, _, members =>
    match Node.member? key members with
    | none => do
      let inner ← changeAt origin change path origin []
      return Node.setMember key (.table origin inner) members
    | some (.value _) => .error (.extendsValue key)
    | some (.tables items) =>
      match items.getLast? with
      | none => .error (.duplicate key)
      | some last => do
        if origin = .points then
          .error (.duplicate key)
        let inner ← changeAt origin change path .header last
        return Node.setMember key (.tables (items.dropLast ++ [inner])) members
    | some (.table found inner) => do
      if origin = .points ∧ found = .header then
        .error (.duplicate key)
      let inner ← changeAt origin change path found inner
      return Node.setMember key (.table found inner) members

/-- Add a value under a key with points, given as its steps and its last part. -/
def addValue (steps : List String) (key : String) (value : Toml) (members : List (String × Node))
    (here : Origin) : Except KeyFault (List (String × Node)) :=
  changeAt .points
    (fun found members ↦
      if !steps.isEmpty ∧ found ≠ .points then
        .error (.duplicate key)
      else
        match Node.member? key members with
        | some _ => .error (.duplicate key)
        | none => .ok (members ++ [(key, .value value)]))
    steps here members

/-- The steps of a key with points and its last part. -/
def splitLast (keys : List String) : List String × String :=
  (keys.dropLast, keys.getLast?.getD "")

/-! ### Values -/

/-- The remark on a value that starts with no character of a value. -/
def unquotedRemark : String :=
  "invalid string\nexpected `\"`, `'`"

/-- Anything that is neither text, array nor table. -/
def readScalar (rest : List Char) : Except Stop (Toml × List Char) :=
  let run := scalarRun rest
  match scalar? run with
  | some v => .ok (v, rest.drop run.length)
  | none =>
    match rest with
    | [] => stop rest ""
    | c :: _ => stop rest (if c.isDigit || c == '+' || c == '-' then "" else unquotedRemark)

mutual

/-- A value. -/
def readValue : Nat → List Char → Except Stop (Toml × List Char)
  | 0, rest => stop rest ""
  | fuel + 1, rest =>
    match rest with
    | '[' :: more => do
      let (items, rest) ← readItems fuel more
      return (.array items, rest)
    | '{' :: more =>
      match skipGap more with
      | '}' :: rest => .ok (.table [], rest)
      | more => do
        let (members, rest) ← readMembers fuel [] more
        return (.table (Node.membersToToml members), rest)
    | '"' :: _ | '\'' :: _ => do
      let (text, rest) ← readText rest
      return (.string (String.ofList text), rest)
    | _ => readScalar rest

/-- The items of an array, behind its bracket; the last may be followed by a comma. -/
def readItems : Nat → List Char → Except Stop (List Toml × List Char)
  | 0, rest => stop rest ""
  | fuel + 1, rest =>
    match skipLines (rest.length + 1) rest with
    | ']' :: rest => .ok ([], rest)
    | rest => do
      let (item, rest) ← readValue fuel rest
      match skipLines (rest.length + 1) rest with
      | ',' :: rest =>
        let (more, rest) ← readItems fuel rest
        return (item :: more, rest)
      | ']' :: rest => return ([item], rest)
      | rest => stop rest ""

/-- The members of a table in braces, on one line, added to those read before. -/
def readMembers :
    Nat → List (String × Node) → List Char → Except Stop (List (String × Node) × List Char)
  | 0, _, rest => stop rest ""
  | fuel + 1, members, rest => do
    let start := rest
    let (keys, rest) ← readKeys (rest.length + 1) rest
    match skipGap rest with
    | '=' :: rest =>
      let (value, rest) ← readValue fuel (skipGap rest)
      let (steps, key) := splitLast keys
      match addValue steps key value members .header with
      | .error fault => stop start fault.remark
      | .ok members =>
        match skipGap rest with
        | ',' :: rest => readMembers fuel members rest
        | '}' :: rest => return (members, rest)
        | rest => stop rest ""
    | rest => stop rest ""

end

/-! ### Lines -/

/-- What has been read of a file: its root and the path of the table that lines go to. -/
structure Progress where
  root : List (String × Node)
  here : List String

/-- Give a table its header. -/
def openTable (keys : List String) (p : Progress) : Except KeyFault Progress := do
  let (steps, key) := splitLast keys
  let root ← changeAt .step
    (fun _ members ↦
      match Node.member? key members with
      | none => .ok (Node.setMember key (.table .header []) members)
      | some (.table .step inner) => .ok (Node.setMember key (.table .header inner) members)
      | some _ => .error (.duplicate key))
    steps .header p.root
  return ⟨root, keys⟩

/-- Begin the next table of a row. -/
def openRow (keys : List String) (p : Progress) : Except KeyFault Progress := do
  let (steps, key) := splitLast keys
  let root ← changeAt .step
    (fun _ members ↦
      match Node.member? key members with
      | none => .ok (Node.setMember key (.tables [[]]) members)
      | some (.tables items) => .ok (Node.setMember key (.tables (items ++ [[]])) members)
      | some _ => .error (.duplicate key))
    steps .header p.root
  return ⟨root, keys⟩

/-- Add a value to the table that lines go to. -/
def addLine (keys : List String) (value : Toml) (p : Progress) : Except KeyFault Progress := do
  let (steps, key) := splitLast keys
  let root ← changeAt .step (fun here members ↦ addValue steps key value members here) p.here
    .header p.root
  return { p with root }

/-- Accept a change of the tables or stop where its line starts. -/
def accept (start : List Char) (r : Except KeyFault Progress) (rest : List Char) :
    Except Stop (Progress × List Char) :=
  match r with
  | .ok p => .ok (p, rest)
  | .error fault => stop start fault.remark

/-- One line without the blanks in front of it: a header, a row header, or a key with its value. -/
def readLine (p : Progress) (rest : List Char) : Except Stop (Progress × List Char) :=
  match rest with
  | '[' :: '[' :: more => do
    let (keys, after) ← readKeys (more.length + 1) more
    match after with
    | ']' :: ']' :: after => accept rest (openRow keys p) after
    | _ => stop after ""
  | '[' :: more => do
    let (keys, after) ← readKeys (more.length + 1) more
    match after with
    | ']' :: after => accept rest (openTable keys p) after
    | _ => stop after ""
  | _ => do
    let (keys, after) ← readKeys (rest.length + 1) rest
    match after with
    | '=' :: after =>
      let after := skipGap after
      let (value, after) ← readValue (2 * after.length + 2) after
      accept rest (addLine keys value p) after
    | _ => stop after ""

/-- All lines of a file. -/
def readLines : Nat → Progress → List Char → Except Stop (Progress × List Char)
  | 0, _, rest => stop rest ""
  | fuel + 1, p, rest =>
    match skipLines (rest.length + 1) rest with
    | [] => .ok (p, [])
    | rest => do
      let (p, rest) ← readLine p rest
      let rest := skipComment (skipGap rest)
      match rest with
      | [] => return (p, [])
      | _ =>
        match lineBreak? rest with
        | some rest => readLines fuel p rest
        | none => stop rest ""

/-- The members of a whole file; a byte order mark in front is no part of it. -/
def parse (source : List Char) : Except Fault (List (String × Toml)) :=
  let text := match source with
    | '\uFEFF' :: rest => rest
    | _ => source
  match readLines (text.length + 1) ⟨[], []⟩ text with
  | .ok (p, _) => .ok (Node.membersToToml p.root)
  | .error s => .error ⟨source.length - s.rest.length, source, s.remark⟩

end RonWorkbench.Toml
