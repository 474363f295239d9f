/-!
# Values of configuration files

The values that a configuration file can hold, with dates kept as text, and what is known of a text
that is no such file: the place where reading stopped and a remark on it.
-/

namespace RonWorkbench

/-- A value of a configuration file. -/
inductive Toml
  | string (value : String)
  | integer (value : Int)
  | float (value : Float)
  | bool (value : Bool)
  | date (text : String)
  | array (items : List Toml)
  | table (members : List (String × Toml))
  deriving Inhabited, Repr

namespace Toml

/-- Where and why reading stopped; `rest` is what was not read any more. -/
structure Stop where
  rest : List Char
  remark : String

/-- The place of a stop, as a user is shown it. -/
structure Fault where
  offset : Nat
  source : List Char
  remark : String

/-- A count of blanks. -/
def blanks (n : Nat) : String :=
  String.ofList (List.replicate n ' ')

/-- The fault with its line, a mark under the place and the remark. -/
def Fault.message (f : Fault) : String :=
  let before := f.source.take f.offset
  let line := before.count '\n' + 1
  let column := (before.reverse.takeWhile (· != '\n')).length
  let content := (f.source.drop (f.offset - column)).takeWhile (· != '\n')
  let content := if content.getLast? = some '\r' then content.dropLast else content
  let gutter := blanks ((toString line).length + 1)
  s!"TOML parse error at line {line}, column {column + 1}\n" ++ gutter ++ "|\n"
    ++ s!"{line} | " ++ String.ofList content ++ "\n" ++ gutter ++ "|" ++ blanks (column + 1)
    ++ "^\n" ++ f.remark ++ "\n"

end Toml

end RonWorkbench
