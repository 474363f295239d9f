import RonWorkbench.Json.Basic
import RonWorkbench.Server.Basic

/-!
# Answers as an editor is sent them

The written form of the server's answers, as members of JSON objects with the names that editors
know.
-/

namespace RonWorkbench.Server

/-- The server's name. -/
def serverName : String := "ron-lsp"

/-- The server's version. -/
def serverVersion : String := "0.1.0"

/-- The number of a severity. -/
def Severity.number : Severity → Nat
  | .error => 1
  | .warning => 2

/-- What the server can do: it takes whole texts, formats, and gives the spans of a whole text. -/
def abilities : Json :=
  .object [
    ("capabilities", .object [
      ("documentFormattingProvider", .bool true),
      ("semanticTokensProvider", .object [
        ("full", .bool true),
        ("legend", .object [
          ("tokenModifiers", .array []),
          ("tokenTypes", .array (Highlight.Kind.legend.map fun k ↦ .string k.name))])]),
      ("textDocumentSync", .nat 1)]),
    ("serverInfo", .object [("name", .string serverName), ("version", .string serverVersion)])]

/-- A place in a document. -/
def encodePosition (p : Position) : Json :=
  .object [("line", .nat p.line), ("character", .nat p.column)]

/-- An edit of a document. -/
def encodeEdit (e : Formatter.EditorEdit) : Json :=
  .object [
    ("range", .object [("start", encodePosition e.start), ("end", encodePosition e.stop)]),
    ("newText", .string (String.ofList e.newText))]

/-- An answer, unless it is broken. -/
def Answer.encode? : Answer → Option Json
  | .nothing => some .null
  | .abilities => some Server.abilities
  | .spans items =>
    some (.object [("data", .array ((Highlight.Relative.flatten items).map Json.nat))])
  | .edits items => some (.array (items.map encodeEdit))
  | .broken => none

/-- A message to the user. -/
def Message.encode (m : Message) : Json :=
  .object [("type", .nat m.severity.number), ("text", .string m.text)]

end RonWorkbench.Server
