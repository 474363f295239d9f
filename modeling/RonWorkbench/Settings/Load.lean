import RonWorkbench.Files
import RonWorkbench.Settings.Typed
import RonWorkbench.Toml.Document

/-!
# Loading settings

The defaults, then files in order, then single values are put over one another and read as
settings. A file that is not there under its name is looked for with `.toml` behind the name. A
file that has to be there and is not, is a fault; one that need not be there is passed over, also if
it cannot be read, but not if it can be read and is no configuration file.

On the command line there is one file, the one named by the user, or else the project's own if
there is one; the flags are single values (`Flags.overrides`).
-/

namespace RonWorkbench.Settings

/-- Why settings cannot be loaded. -/
inductive LoadFault
  /-- A single value with a key that is none. -/
  | badKey
  /-- A subscript that counts back beyond the start of its array. -/
  | badSubscript (index : Int)
  /-- A file that is no configuration file. -/
  | badFile (file : String) (fault : Toml.Fault)
  /-- A file that has to be there and is not. -/
  | noFile (name : String)
  /-- A file that holds no text. -/
  | noText
  /-- Values that are no settings. -/
  | typed (fault : TypedFault)

/-- The fault in words. -/
def LoadFault.message : LoadFault → String
  | badKey => "failed to parse key"
  | badSubscript index => s!"subscript {index} is out of range"
  | badFile file fault => s!"{fault.message} in {file}"
  | noFile name => s!"configuration file \"{name}\" not found"
  | noText => "stream did not contain valid UTF-8"
  | typed fault => fault.message

/-- What a user of the command line is told. -/
def LoadFault.shown (f : LoadFault) : String :=
  s!"Configuration error: {f.message}"

/-- A file of settings. -/
structure Layer where
  file : String
  required : Bool
  deriving Repr, DecidableEq

/-- A single value with its key. -/
structure Override where
  key : Key
  value : Scalar ⊕ List Scalar

/-- The value of an override, which comes from no file. -/
def Override.toValue (o : Override) : Value :=
  match o.value with
  | .inl s => .scalar none s
  | .inr items => .array none (items.map (.scalar none))

/-- Add an override; one with the same key takes the place of an earlier one. -/
def addOverride (o : Override) : List Override → List Override
  | [] => [o]
  | p :: more => if p.key = o.key then o :: more else p :: addOverride o more

/-! ### The built-in defaults -/

/-- A natural number of the defaults. -/
def defaultCount (n : Nat) : Value :=
  .scalar none (.integer n)

/-- The lowest layer. -/
def defaults : Value :=
  let s : FormatterSettings := {}
  .table none
    [("formatter", .table none
      [("path", .scalar none (.string s.path)),
        ("extra_args", .array none []),
        ("max_width", defaultCount s.maxWidth),
        ("tab_size", defaultCount s.tabSize),
        ("use_stdin", .scalar none (.bool s.useStdin)),
        ("timeout_ms", defaultCount s.timeout),
        ("max_output_bytes", defaultCount s.outputLimit)]),
      ("tokens", .table none
        [("format", .scalar none (.string ({ } : Configuration).listing.name))])]

/-! ### Files -/

/-- A written path without the parts that lead nowhere. -/
def tidyPath (written : String) : String :=
  let names := (Files.names written).filter fun n ↦ n != "" && n != "."
  let joined := "/".intercalate names
  if written.toList.head? = some '/' then "/" ++ joined else joined

/-- The content of a path if it leads to a file. -/
def fileAt? (files : Files) (here : Path) (written : String) : Option (List UInt8) :=
  (files.read here written).toOption

/-- The file of a name: under the name itself or with `.toml` behind it. -/
def findFile? (files : Files) (here : Path) (name : String) : Option (String × List UInt8) :=
  match fileAt? files here name with
  | some content => some (tidyPath name, content)
  | none =>
    let longer := tidyPath name ++ ".toml"
    (fileAt? files here longer).map fun content ↦ (longer, content)

/-- The members of a layer's file as they are written, and where they came from. -/
def Layer.toml (files : Files) (here : Path) (layer : Layer) :
    Except LoadFault (Option String × List (String × Toml)) :=
  let unread (fault : LoadFault) : Except LoadFault (Option String × List (String × Toml)) :=
    if layer.required then .error fault else .ok (none, [])
  match findFile? files here layer.file with
  | none => unread (.noFile layer.file)
  | some (file, content) =>
    match Text.decode? content with
    | none => unread .noText
    | some text =>
      match Toml.parse text with
      | .error fault => .error (.badFile file fault)
      | .ok members => .ok (some file, members)

/-- The members of a layer's file in the order in which they are put. -/
def Layer.read (order : Order) (files : Files) (here : Path) (layer : Layer) :
    Except LoadFault (List (String × Value)) := do
  let (origin, members) ← layer.toml files here
  return order.arrange (Value.ofTomlMembers order origin members)

/-- A failed subscript stops the loading. -/
def subscripted {α : Type} (r : Except SubscriptFault α) : Except LoadFault α :=
  r.mapError fun fault ↦ .badSubscript fault.index

/-- Put files over a root in order. -/
def putFiles (order : Order) (files : Files) (here : Path) (layers : List Layer) (root : Value) :
    Except LoadFault Value :=
  layers.foldlM
    (fun root layer ↦ do
      let members ← layer.read order files here
      subscripted (putLayer members root))
    root

/-- Put single values over a root in order. -/
def putOverrides (overrides : List Override) (root : Value) : Except LoadFault Value :=
  overrides.foldlM (fun root o ↦ subscripted (o.key.put o.toValue root)) root

/-- Load settings from the defaults, files and single values, with all that has no order in one. -/
def load (files : Files) (here : Path) (layers : List Layer) (overrides : List Override)
    (order : Order := .written) : Except LoadFault Configuration := do
  let root ← putFiles order files here layers defaults
  let root ← putOverrides (order.arrange overrides) root
  (asConfiguration root).mapError .typed

/-! ### On the command line -/

/-- The file that a project keeps its settings in. -/
def projectFile : String := "ron-tools.toml"

/-- Settings given as flags. -/
structure Flags where
  program : Option String := none
  stdinMode : Bool := false
  tabSize : Option Nat := none
  maxWidth : Option Nat := none
  deriving Repr, DecidableEq

/-- A setting of the formatter as an override. -/
def formatterOverride (name : String) (value : Scalar) : Override :=
  ⟨⟨"formatter", [.name name]⟩, .inl value⟩

/-- The single values that flags stand for. -/
def Flags.overrides (f : Flags) : List Override :=
  (f.program.map fun p ↦ formatterOverride "path" (.string p)).toList
    ++ (if f.stdinMode then [formatterOverride "use_stdin" (.bool true)] else [])
    ++ (f.tabSize.map fun n ↦ formatterOverride "tab_size" (.integer n)).toList
    ++ (f.maxWidth.map fun n ↦ formatterOverride "max_width" (.integer n)).toList

/-- The file named by the user, or else the project's own if there is one. -/
def commandLayers (config : Option String) : List Layer :=
  match config with
  | some file => [⟨file, true⟩]
  | none => [⟨projectFile, false⟩]

/-- Load settings as the command line does. -/
def loadForCommand (files : Files) (here : Path) (config : Option String) (flags : Flags)
    (order : Order := .written) : Except LoadFault Configuration :=
  load files here (commandLayers config) flags.overrides order

end RonWorkbench.Settings
