import RonWorkbench.Formatter.Fault
import RonWorkbench.Formatter.Outcome
import RonWorkbench.Highlight.Relative
import RonWorkbench.Keyed
import RonWorkbench.Settings.Payload

/-!
# The language server

What an editor asks and what it is answered. A server keeps the settings and the texts of documents
(`State`), and each request is one step of it (`State.handle`): an answer, the messages that the
user is shown, what the features were asked for, and the state afterwards.

What colours a text and what formats it are parameters (`Features`), so that the server's own part,
which text and which options they are given and what becomes of what they say, stands by itself.
-/

namespace RonWorkbench.Server

/-- What gives the server its answers. -/
structure Features where
  /-- The spans of a text. -/
  spans : List Char → List Highlight.Span
  /-- The outcome of formatting a text. -/
  format : List Char → Formatter.Options → Except Formatter.Fault Formatter.Outcome

/-- How grave a message is. -/
inductive Severity
  | error
  | warning
  deriving Repr, DecidableEq

/-- A message to the user. -/
structure Message where
  severity : Severity
  text : String
  deriving Repr, DecidableEq

/-- What an editor asks or tells. -/
inductive Request
  /-- Begin, perhaps with settings. -/
  | begin (options : Option Json)
  /-- The editor is ready. -/
  | ready
  /-- Get ready to leave. -/
  | leave
  /-- A document was opened. -/
  | opened (address : String) (text : List Char)
  /-- A document was changed; each change carries its whole text. -/
  | changed (address : String) (texts : List (List Char))
  /-- A document was closed. -/
  | closed (address : String)
  /-- The settings were changed. -/
  | configured (payload : Json)
  /-- Which spans does the document have? -/
  | highlight (address : String)
  /-- How is the document to be changed, so that it is formatted? -/
  | format (address : String) (tabSize : Nat)

/-- What a request is answered. -/
inductive Answer
  /-- Nothing is to be said. -/
  | nothing
  /-- What the server can do. -/
  | abilities
  /-- The spans of a document. -/
  | spans (items : List Highlight.Relative)
  /-- The edits of a document. -/
  | edits (items : List Formatter.EditorEdit)
  /-- The spans or edits given do not fall between the characters of the text. -/
  | broken
  deriving Repr, DecidableEq

/-- What the features were asked for. -/
inductive Consultation
  | spans (text : List Char)
  | format (text : List Char) (options : Formatter.Options)
  deriving Repr, DecidableEq

/-- An answer with all that the request brought about. -/
structure Reply where
  answer : Answer := .nothing
  messages : List Message := []
  consulted : List Consultation := []
  deriving Repr, DecidableEq

/-- What the server keeps from one request to the next. -/
structure State where
  settings : Settings.FormatterSettings := {}
  /-- The text last told of for an address. -/
  documents : Keyed String (List Char) := .empty
  deriving Repr, DecidableEq

/-- What the user is told of settings that cannot be read. -/
def ignoredSettings (fault : Settings.PayloadFault) : Message :=
  ⟨.warning, s!"Ignoring invalid RON formatter settings: {fault.message}"⟩

/-- What the user is told of a failed formatting, if there is anybody left to tell. -/
def formatterMessages (fault : Formatter.Fault) : List Message :=
  if fault.isNotified then [⟨.error, fault.shown⟩] else []

namespace State

/-- Take settings; a payload that cannot be read changes none of them. -/
def configure (s : State) (payload : Json) : List Message × State :=
  match Settings.Changes.ofPayload payload with
  | .ok changes => ([], { s with settings := changes.apply s.settings })
  | .error fault => ([ignoredSettings fault], s)

/-- The spans of a document as the editor is sent them. -/
def highlight (features : Features) (text : List Char) : Reply :=
  let answer := match Highlight.Relative.encode? text (features.spans text) with
    | some items => .spans items
    | none => .broken
  { answer, consulted := [.spans text] }

/-- The edits that make a document what the formatter made of it; a failure makes none. -/
def reformat (features : Features) (text : List Char) (options : Formatter.Options) : Reply :=
  let consulted := [Consultation.format text options]
  match features.format text options with
  | .error fault => { answer := .edits [], messages := formatterMessages fault, consulted }
  | .ok outcome =>
    match outcome.editorEdits? text with
    | some edits => { answer := .edits edits, consulted }
    | none => { answer := .broken, consulted }

/-- One request. -/
def handle (features : Features) (s : State) : Request → Reply × State
  | .begin options =>
    let (messages, s) := s.configure (options.getD .null)
    ({ answer := .abilities, messages }, s)
  | .ready | .leave => ({}, s)
  | .opened address text => ({}, { s with documents := s.documents.set address text })
  | .changed address texts =>
    match texts.getLast? with
    | some text => ({}, { s with documents := s.documents.set address text })
    | none => ({}, s)
  | .closed address => ({}, { s with documents := s.documents.erase address })
  | .configured payload =>
    let (messages, s) := s.configure payload
    ({ messages }, s)
  | .highlight address =>
    match s.documents.get? address with
    | some text => (highlight features text, s)
    | none => ({}, s)
  | .format address tabSize =>
    match s.documents.get? address with
    | some text => (reformat features text (s.settings.toOptions (some tabSize)), s)
    | none => ({}, s)

/-- Requests one after another: the replies in order, and the state that is left. -/
def run (features : Features) (s : State) : List Request → List Reply × State
  | [] => ([], s)
  | request :: more =>
    let (reply, next) := s.handle features request
    let (replies, last) := run features next more
    (reply :: replies, last)

end State

end RonWorkbench.Server
