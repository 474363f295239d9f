import RonWorkbench.Settings.Load

/-!
# What the command line can ask for

The tool has two commands, `tokens` and `format`, each with a path and options. This module says
what was asked for (`Invocation`), what was wrong with the way it was asked (`UsageFault`), and
which options there are (`Flag`); `CommandLine.read` reads them off the words of a line.
-/

namespace RonWorkbench.CommandLine

/-- What a line, or a help text, is about. -/
inductive Topic
  | tool
  | tokens
  | format
  | help
  deriving Repr, DecidableEq

/-- Where the result of formatting goes. -/
inductive Delivery
  /-- To the output. -/
  | print
  /-- Back into the file. -/
  | rewrite
  /-- Nowhere; the exit status tells whether the file would change. -/
  | check
  deriving Repr, DecidableEq

/-- A formatting as asked for. -/
structure FormatRequest where
  path : String
  delivery : Delivery
  config : Option String
  flags : Settings.Flags
  deriving Repr, DecidableEq

/-- What was asked for. -/
inductive Invocation
  | help (topic : Topic)
  | version
  | tokens (path : String) (format : Option ListingFormat)
  | format (request : FormatRequest)
  deriving Repr, DecidableEq

/-! ### Options -/

/-- The options of the tool and of its commands. -/
inductive Flag
  | help
  | version
  | listing
  | rewrite
  | check
  | config
  | formatter
  | stdinMode
  | tabSize
  | maxWidth
  deriving Repr, DecidableEq

namespace Flag

/-- The name that follows two dashes. -/
def name : Flag → String
  | help => "help"
  | version => "version"
  | listing => "format"
  | rewrite => "write"
  | check => "check"
  | config => "config"
  | formatter => "formatter"
  | stdinMode => "stdin-mode"
  | tabSize => "tab-size"
  | maxWidth => "max-width"

/-- The letter that follows one dash, for the options that have one. -/
def letter? : Flag → Option Char
  | help => some 'h'
  | version => some 'V'
  | listing => some 'f'
  | config => some 'c'
  | _ => none

/-- The option is given with a value. -/
def takesValue : Flag → Bool
  | listing | config | formatter | tabSize | maxWidth => true
  | help | version | rewrite | check | stdinMode => false

end Flag

namespace Topic

/-- The options that a line about the topic can hold. -/
def flags : Topic → List Flag
  | tool => [.help, .version]
  | tokens => [.listing, .help]
  | format =>
    [.rewrite, .check, .config, .formatter, .stdinMode, .tabSize, .maxWidth, .help]
  | help => []

/-- The option of a name. -/
def flagOfName? (t : Topic) (name : String) : Option Flag :=
  t.flags.find? fun f ↦ f.name == name

/-- The option of a letter. -/
def flagOfLetter? (t : Topic) (letter : Char) : Option Flag :=
  t.flags.find? fun f ↦ f.letter? == some letter

/-- The command of a name. -/
def ofCommand? : String → Option Topic
  | "tokens" => some tokens
  | "format" => some format
  | "help" => some help
  | _ => none

end Topic

/-! ### Faults -/

/-- What is wrong with a line. -/
inductive UsageFault
  /-- The line is empty. -/
  | nothingAsked
  /-- No command has this name. -/
  | unknownCommand (word : String)
  /-- The word is none of the options and has no place. -/
  | unknownArgument (word : String)
  /-- An option stands without its value. -/
  | missingValue (flag : Flag)
  /-- A value is none of those that can be chosen. -/
  | unknownChoice (flag : Flag) (value : String)
  /-- A value is no number in range. -/
  | badNumber (flag : Flag) (value : String)
  /-- An option that takes no value has one. -/
  | needlessValue (flag : Flag) (value : String)
  /-- An option is given twice. -/
  | repeated (flag : Flag)
  /-- Two options exclude each other. -/
  | exclusive (first second : Flag)
  /-- There is no path. -/
  | noPath
  deriving Repr, DecidableEq

/-- The fault in words. -/
def UsageFault.message : UsageFault → String
  | nothingAsked => "a command is required"
  | unknownCommand word => s!"unrecognized command '{word}'"
  | unknownArgument word => s!"unexpected argument '{word}'"
  | missingValue flag => s!"a value is required for '--{flag.name}'"
  | unknownChoice flag value => s!"invalid value '{value}' for '--{flag.name}'"
  | badNumber flag value => s!"'{value}' is no value for '--{flag.name}'"
  | needlessValue flag value => s!"unexpected value '{value}' for '--{flag.name}'"
  | repeated flag => s!"'--{flag.name}' cannot be given twice"
  | exclusive first second => s!"'--{first.name}' cannot be given with '--{second.name}'"
  | noPath => "a path is required"

end RonWorkbench.CommandLine
