import RonWorkbench.CommandLine.Basic

/-!
# Help texts

A help text says what its topic does and how it is written, and then lists commands, arguments and
options, each in a block of two columns (`Help.block`). The left column of a block is as wide as
its widest entry.
-/

namespace RonWorkbench.CommandLine

/-- The tool's name. -/
def toolName : String := "ron"

/-- The tool's version. -/
def toolVersion : String := "0.1.0"

/-- The line that tells the version. -/
def versionLine : String := s!"{toolName} {toolVersion}\n"

namespace Help

/-- What a command is for. -/
def purpose : Topic → String
  | .tool => "A tool for inspecting and formatting RON files"
  | .tokens => "Print the highlighting scopes of every token"
  | .format => "Format a RON file with the external formatter"
  | .help => "Print this message or the help of the given subcommand(s)"

/-- How a command is written. -/
def usage : Topic → String
  | .tool => s!"{toolName} <COMMAND>"
  | .tokens => s!"{toolName} tokens [OPTIONS] <path>"
  | .format => s!"{toolName} format [OPTIONS] <path>"
  | .help => s!"{toolName} help [COMMAND]..."

/-- What an option is for. -/
def flagPurpose : Flag → String
  | .help => "Print help"
  | .version => "Print version"
  | .listing =>
    "Output format (default: tokens.format from the config) [possible values: simple, json]"
  | .rewrite => "Write the result back to the file instead of printing it"
  | .check => "Exit with status 1 if the file is not formatted"
  | .config => s!"Configuration file (default: {Settings.projectFile} if present)"
  | .formatter => "Formatter program name or path"
  | .stdinMode => "Pipe the document through stdin instead of a temp file"
  | .tabSize => "Indentation width passed to the formatter"
  | .maxWidth => "Maximum line width passed to the formatter"

/-- How an option is written: letter, name, value. -/
def flagForm (f : Flag) : String :=
  let letter := match f.letter? with
    | some c => s!"-{c}, "
    | none => "    "
  let value := if f.takesValue then s!" <{f.name}>" else ""
  s!"{letter}--{f.name}{value}"

/-- A titled block of two columns. -/
def block (title : String) (rows : List (String × String)) : String :=
  let width := (rows.map fun row ↦ row.1.length).foldl max 0
  let line (row : String × String) : String :=
    let padding := String.ofList (List.replicate (width - row.1.length + 2) ' ')
    "  " ++ row.1 ++ padding ++ row.2 ++ "\n"
  s!"\n{title}:\n" ++ String.join (rows.map line)

/-- The commands of the tool. -/
def commandRows : List (String × String) :=
  [("tokens", purpose .tokens), ("format", purpose .format), ("help", purpose .help)]

/-- The options of a topic. -/
def flagRows (t : Topic) : List (String × String) :=
  t.flags.map fun f ↦ (flagForm f, flagPurpose f)

/-- The blocks of a topic. -/
def blocks : Topic → String
  | .tool => block "Commands" commandRows ++ block "Options" (flagRows .tool)
  | .help => block "Arguments" [("[COMMAND]...", "Print help for the subcommand(s)")]
  | t => block "Arguments" [("<path>", "Path to the RON file")] ++ block "Options" (flagRows t)

/-- The help text of a topic. -/
def text (t : Topic) : String :=
  s!"{purpose t}\n\nUsage: {usage t}\n" ++ blocks t

end Help

end RonWorkbench.CommandLine
