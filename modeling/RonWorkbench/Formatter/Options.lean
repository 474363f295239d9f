/-!
# How the formatter is called

The formatter is a program of its own. In temp-file mode it is called with a scratch copy of the
document and its layout,

    program file -d -t <tab size> -w <max width> <extra arguments>

and prints the result; in stdin mode it gets only the extra arguments and reads the document from
its input. A tab size of zero stands for the default.
-/

namespace RonWorkbench.Formatter

/-- How the document reaches the formatter. -/
inductive Mode
  | tempFile
  | stdin
  deriving Repr, DecidableEq

namespace Mode

/-- The name of a mode. -/
def name : Mode → String
  | tempFile => "temp-file"
  | stdin => "stdin"

/-- A name that no mode has. -/
structure Unknown where
  name : String

/-- What the user is told of an unknown mode. -/
def Unknown.message (u : Unknown) : String :=
  s!"unknown invocation mode '{u.name}' (expected temp-file or stdin)"

/-- The mode of a name. -/
def parse : String → Except Unknown Mode
  | "temp-file" => .ok tempFile
  | "stdin" => .ok stdin
  | other => .error ⟨other⟩

theorem parse_name (m : Mode) : parse m.name = .ok m := by
  cases m <;> rfl

end Mode

/-- The program that is called unless another is named. -/
def defaultProgram : String := "fmtron"

/-- The indentation unless another is given. -/
def defaultTabSize : Nat := 4

/-- The line width unless another is given. -/
def defaultMaxWidth : Nat := 80

/-- The time that a run may take unless another is given, in milliseconds. -/
def defaultTimeout : Nat := 10000

/-- The number of bytes that a run may print unless another is given. -/
def defaultOutputLimit : Nat := 10 * 1024 * 1024

/-- One call of the formatter; times are in milliseconds, sizes in bytes. -/
structure Options where
  program : String := defaultProgram
  extraArgs : List String := []
  tabSize : Nat := defaultTabSize
  maxWidth : Nat := defaultMaxWidth
  mode : Mode := .tempFile
  timeout : Nat := defaultTimeout
  outputLimit : Nat := defaultOutputLimit
  deriving Repr, DecidableEq

namespace Options

/-- Set the indentation; zero stands for the default. -/
def withTabSize (o : Options) (tabSize : Nat) : Options :=
  { o with tabSize := if tabSize = 0 then defaultTabSize else tabSize }

theorem tabSize_withTabSize_ne_zero (o : Options) (n : Nat) : (o.withTabSize n).tabSize ≠ 0 := by
  unfold withTabSize
  split <;> simp_all [defaultTabSize]

/-- The arguments of the call, given the scratch file if there is one. -/
def arguments (o : Options) (file : Option String) : List String :=
  match o.mode, file with
  | .tempFile, some file =>
    [file, "-d", "-t", toString o.tabSize, "-w", toString o.maxWidth] ++ o.extraArgs
  | _, _ => o.extraArgs

end Options

end RonWorkbench.Formatter
