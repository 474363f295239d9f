import RonWorkbench.Document
import RonWorkbench.Json.Printer

/-!
# Listings of a document's tokens

Two listings of the same tokens. The simple one has a line per token with the token's text in
brackets and the names of its scopes; lines without tokens leave no trace in it. The JSON one holds
the whole classified document: every line with its number, offset, text and tokens, and the stack
at the end.

Scopes are written by name. A frame is written under the name of its construct with what the frame
holds, a group as the name of its bracket.
-/

namespace RonWorkbench

/-- The two listings. -/
inductive ListingFormat
  | simple
  | json
  deriving Repr, DecidableEq

namespace ListingFormat

/-- The name by which a user asks for the listing. -/
def name : ListingFormat → String
  | simple => "simple"
  | json => "json"

/-- Why a listing cannot be had. -/
structure Unknown where
  name : String

/-- What the user is told of an unknown name. -/
def Unknown.message (u : Unknown) : String :=
  s!"Format '{u.name}' not supported. Available formats: simple, json"

/-- The listing that a user asks for. -/
def parse : String → Except Unknown ListingFormat
  | "simple" => .ok simple
  | "json" => .ok json
  | other => .error ⟨other⟩

end ListingFormat

/-! ### JSON forms -/

/-- The name of a bracket kind. -/
def Bracket.name : Bracket → String
  | parens => "parens"
  | brackets => "brackets"
  | braces => "braces"

/-- The bracket kind of a name. -/
def Bracket.ofName? : String → Option Bracket
  | "parens" => some parens
  | "brackets" => some brackets
  | "braces" => some braces
  | _ => none

/-- A frame under the name of its construct. -/
def Frame.toJson : Frame → Json
  | blockComment depth => .object [("block-comment", .object [("depth", .nat depth.toNat)])]
  | quoted byte => .object [("str", .object [("byte", .bool byte)])]
  | rawQuoted hashes byte =>
    .object [("raw-str", .object [("hashes", .nat hashes), ("byte", .bool byte)])]
  | character byte => .object [("char", .object [("byte", .bool byte)])]
  | group kind => .object [("group", .string kind.name)]

/-- A stack, outermost frame first. -/
def Stack.toJson (s : Stack) : Json :=
  .array (s.reverse.map Frame.toJson)

/-- A token with its range and the names of its scopes. -/
def Token.toJson (t : Token) : Json :=
  .object [("range", .object [("start", .nat t.start), ("end", .nat t.stop)]),
    ("scopes", .array (t.scopes.map fun s ↦ .string s.name))]

/-- A line with its tokens. -/
def Document.Line.toJson (line : Document.Line) : Json :=
  .object [("number", .nat line.number), ("offset", .nat line.offset),
    ("text", .string (String.ofList line.text)), ("tokens", .array (line.tokens.map Token.toJson))]

/-- A whole classified document. -/
def Document.toJson (d : Document) : Json :=
  .object [("lines", .array (d.lines.map Document.Line.toJson)), ("stack", Stack.toJson d.stack)]

/-! ### Reading the JSON forms back -/

/-- The frame that a JSON form stands for. -/
def Frame.ofJson? : Json → Option Frame
  | .object [("block-comment", value)] => do
    let depth ← (← value.member? "depth").nat?
    return .blockComment (UInt64.ofNat depth)
  | .object [("str", value)] => do
    return .quoted (← (← value.member? "byte").bool?)
  | .object [("raw-str", value)] => do
    return .rawQuoted (← (← value.member? "hashes").nat?) (← (← value.member? "byte").bool?)
  | .object [("char", value)] => do
    return .character (← (← value.member? "byte").bool?)
  | .object [("group", .string name)] => (Bracket.ofName? name).map .group
  | _ => none

/-- The stack that a JSON form stands for. -/
def Stack.ofJson? (j : Json) : Option Stack := do
  let frames ← (← j.items?).mapM Frame.ofJson?
  return frames.reverse

/-- The scope that a JSON form stands for. -/
def Scope.ofJson? (j : Json) : Option Scope := do
  Scope.ofName? (← j.string?)

/-- The token that a JSON form stands for. -/
def Token.ofJson? (j : Json) : Option Token := do
  let range ← j.member? "range"
  let start ← (← range.member? "start").nat?
  let stop ← (← range.member? "end").nat?
  let scopes ← (← (← j.member? "scopes").items?).mapM Scope.ofJson?
  return ⟨start, stop, scopes⟩

/-- The line that a JSON form stands for. -/
def Document.Line.ofJson? (j : Json) : Option Document.Line := do
  let number ← (← j.member? "number").nat?
  let offset ← (← j.member? "offset").nat?
  let text ← (← j.member? "text").string?
  let tokens ← (← (← j.member? "tokens").items?).mapM Token.ofJson?
  return ⟨number, offset, text.toList, tokens⟩

/-- The document that a JSON form stands for. -/
def Document.ofJson? (j : Json) : Option Document := do
  let lines ← (← (← j.member? "lines").items?).mapM Document.Line.ofJson?
  let stack ← Stack.ofJson? (← j.member? "stack")
  return ⟨lines, stack⟩

/-! ### Listings -/

namespace Document

/-- The simple listing: the tokens of all lines that have any. -/
def simpleListing (d : Document) : List Char :=
  ['\n'].intercalate
    ((d.lines.filter fun line ↦ !line.tokens.isEmpty).map fun line ↦
      Token.renderAll line.tokens line.text)

/-- The listing of a document. -/
def listing (d : Document) : ListingFormat → List Char
  | .simple => d.simpleListing
  | .json => d.toJson.pretty

/-- What a user is told of a document that ends inside a literal or a comment. -/
def warning? (d : Document) : Option String :=
  d.unterminated?.map fun frame ↦
    s!"warning: document ends inside an unterminated {frame.describe}"

end Document

end RonWorkbench
