import RonWorkbench.Formatter.Options
import RonWorkbench.Listing

/-!
# Settings

What a user can set: how the formatter is reached, and which listing of tokens is printed unless
another is asked for. An editor sends partial settings (`Changes`), which leave alone what they do
not mention.
-/

namespace RonWorkbench.Settings

/-- How the formatter is reached; times are in milliseconds, sizes in bytes. -/
structure FormatterSettings where
  path : String := Formatter.defaultProgram
  extraArgs : List String := []
  maxWidth : Nat := Formatter.defaultMaxWidth
  tabSize : Nat := Formatter.defaultTabSize
  useStdin : Bool := false
  timeout : Nat := Formatter.defaultTimeout
  outputLimit : Nat := Formatter.defaultOutputLimit
  deriving Repr, DecidableEq

namespace FormatterSettings

/-- How the document reaches the formatter. -/
def mode (s : FormatterSettings) : Formatter.Mode :=
  if s.useStdin then .stdin else .tempFile

/-- The options of one call; an editor's own tab size wins over the settings'. -/
def toOptions (s : FormatterSettings) (tabSize : Option Nat) : Formatter.Options :=
  Formatter.Options.withTabSize
    { program := s.path
      extraArgs := s.extraArgs
      maxWidth := s.maxWidth
      mode := s.mode
      timeout := s.timeout
      outputLimit := s.outputLimit }
    (tabSize.getD s.tabSize)

end FormatterSettings

/-- All settings. -/
structure Configuration where
  formatter : FormatterSettings := {}
  listing : ListingFormat := .simple
  deriving Repr, DecidableEq

/-! ### Partial settings -/

/-- Settings that an editor sends; those that are absent stay as they are. -/
structure Changes where
  path : Option String := none
  extraArgs : Option (List String) := none
  maxWidth : Option Nat := none
  useStdin : Option Bool := none
  timeout : Option Nat := none
  deriving Repr, DecidableEq

namespace Changes

/-- Nothing is mentioned. -/
def isEmpty (c : Changes) : Bool :=
  c == {}

/-- Settings with what is mentioned put in place. -/
def apply (c : Changes) (s : FormatterSettings) : FormatterSettings :=
  { s with
    path := c.path.getD s.path
    extraArgs := c.extraArgs.getD s.extraArgs
    maxWidth := c.maxWidth.getD s.maxWidth
    useStdin := c.useStdin.getD s.useStdin
    timeout := c.timeout.getD s.timeout }

@[simp]
theorem apply_empty (s : FormatterSettings) : apply {} s = s :=
  rfl

end Changes

end RonWorkbench.Settings
