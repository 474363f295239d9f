import RonWorkbench.Proofs.Formatter.Editing
import RonWorkbench.Proofs.Server.Settings

/-!
# Formatting requests

A request to format a document changes nothing that the server keeps, whatever the formatter makes
of it. So a history of requests leaves the same state with and without its formatting requests
(`State.after_filter`), and what such a request is answered depends on the text, the settings and
the formatter alone (`handle_format_of_get?`).

The formatter is asked once. If it gives an outcome, the edits of the answer turn the text that it
was asked about into the text of the outcome (`Outcome.exists_editorEdits?`). If it fails, there are
no edits and the user is told why, once; only of a request that was given up the user is told
nothing. The two kinds of interruption differ in that: a run out of time is told of.

The formatter is a program that need not answer alike every time. So in a history each request comes
with the features that it was handled with (`State.after`).
-/

namespace RonWorkbench

namespace Formatter

/-- **The edits of an outcome give its text**, also where the outcome replaces a text by itself. -/
theorem Outcome.exists_editorEdits? {source : List Char}
    (hsize : Text.byteLength source < 2 ^ 32) (o : Outcome) :
    ∃ edits, o.editorEdits? source = some edits ∧
      EditorEdit.performAll? edits source = some (o.text source) := by
  cases o with
  | unchanged => exact ⟨[], rfl, rfl⟩
  | changed newText =>
    exact ⟨_, editorEdits?_changed hsize newText, EditorEdit.performAll?_whole source newText⟩

end Formatter

namespace Server

/-- The request is to format a document. -/
def Request.isFormat : Request → Bool
  | .format _ _ => true
  | _ => false

/-- What requests leave of a state, each handled with features of its own. -/
def State.after (s : State) (history : List (Features × Request)) : State :=
  history.foldl (fun now event ↦ (now.handle event.1 event.2).2) s

/-! ### Nothing is changed -/

section State

variable (features : Features) (s : State)

/-- **To format a document changes nothing**, whether or not the document is kept. -/
theorem handle_format_state (address : String) (tabSize : Nat) :
    (s.handle features (.format address tabSize)).2 = s := by
  rw [State.handle]
  split <;> rfl

/-- **Formatting requests leave no trace in a history.** -/
theorem State.after_filter (history : List (Features × Request)) :
    s.after (history.filter fun event ↦ !event.2.isFormat) = s.after history := by
  rw [State.after, State.after, List.foldl_filter]
  refine List.foldl_ext _ _ _ fun now event _ ↦ ?_
  obtain ⟨features, request⟩ := event
  cases request with
  | format address tabSize => exact (handle_format_state features now address tabSize).symm
  | _ => rfl

end State

/-! ### What is answered and told -/

section Reformat

variable {features : Features} {text : List Char} {options : Formatter.Options}

/-- Of an outcome the user is told nothing. -/
theorem messages_reformat_of_ok {outcome : Formatter.Outcome}
    (h : features.format text options = .ok outcome) :
    (State.reformat features text options).messages = [] := by
  rw [State.reformat, h]
  dsimp only
  split <;> rfl

/-- The edits of an outcome are the answer. -/
theorem exists_answer_reformat_of_ok {outcome : Formatter.Outcome}
    (h : features.format text options = .ok outcome) (hsize : Text.byteLength text < 2 ^ 32) :
    ∃ edits, (State.reformat features text options).answer = .edits edits ∧
      Formatter.EditorEdit.performAll? edits text = some (outcome.text text) := by
  obtain ⟨edits, hedits, hperform⟩ := Formatter.Outcome.exists_editorEdits? hsize outcome
  rw [State.reformat, h]
  dsimp only
  rw [hedits]
  exact ⟨edits, rfl, hperform⟩

/-- A failure makes no edits, and the user is told of it as of any fault. -/
theorem reformat_of_error {fault : Formatter.Fault}
    (h : features.format text options = .error fault) :
    (State.reformat features text options).answer = .edits [] ∧
      (State.reformat features text options).messages = formatterMessages fault := by
  rw [State.reformat, h]
  exact ⟨rfl, rfl⟩

/-- **The user is told of each fault once**, but of a request that was given up never. -/
theorem formatterMessages_eq (fault : Formatter.Fault) :
    formatterMessages fault =
      if fault = .cancelled then []
      else [⟨.error, s!"RON formatter error: {fault.message}"⟩] := by
  cases fault with
  | cancelled => rfl
  | _ =>
    rw [if_neg (by simp)]
    rfl

end Reformat

/--
**A formatting request is read-only and tells of a failure once.** In whatever state a server
started, after any history of requests, whatever its features answered to each, a request to format
a document leaves the documents and the settings as they are; and with or without the formatting
requests of the history these are the same.

Of a document that is not kept nothing is asked, answered or told. For one that is kept the
formatter is asked once, with the text as it is and the settings as they are. An outcome is answered
with edits that turn this text into the text of the outcome, and the user is told nothing. A failure
is answered without edits, and the user is told of it in one message, unless the request was given
up.
-/
theorem after_format_reports_once (s : State) (history : List (Features × Request))
    (features : Features) (address : String) (tabSize : Nat) :
    let now := s.after history
    let reply := (now.handle features (.format address tabSize)).1
    (now.handle features (.format address tabSize)).2 = now ∧
    s.after (history.filter fun event ↦ !event.2.isFormat) = now ∧
    (now.documents.get? address = none → reply = {}) ∧
    ∀ text, now.documents.get? address = some text →
      let options : Formatter.Options :=
        { program := now.settings.path
          extraArgs := now.settings.extraArgs
          tabSize := if tabSize = 0 then 4 else tabSize
          maxWidth := now.settings.maxWidth
          mode := if now.settings.useStdin then .stdin else .tempFile
          timeout := now.settings.timeout
          outputLimit := now.settings.outputLimit }
      reply.consulted = [.format text options] ∧
      (∀ outcome, features.format text options = .ok outcome →
        reply.messages = [] ∧
        (Text.byteLength text < 2 ^ 32 → ∃ edits, reply.answer = .edits edits ∧
          Formatter.EditorEdit.performAll? edits text = some (outcome.text text))) ∧
      ∀ fault, features.format text options = .error fault →
        reply.answer = .edits [] ∧
        reply.messages =
          if fault = .cancelled then []
          else [⟨.error, s!"RON formatter error: {fault.message}"⟩] := by
  intro now reply
  refine ⟨handle_format_state features now address tabSize, s.after_filter history,
    fun hnone ↦ ?_, fun text hstored ↦ ?_⟩
  · simp [reply, State.handle, hnone]
  -- Of the state only the stored text and the settings come in.
  · intro options
    have hreply : reply = State.reformat features text options :=
      congrArg Prod.fst (handle_format_of_get? features now hstored tabSize)
    rw [hreply]
    refine ⟨consulted_reformat features text options, fun outcome hok ↦ ?_, fun fault herror ↦ ?_⟩
    · exact ⟨messages_reformat_of_ok hok, exists_answer_reformat_of_ok hok⟩
    · rw [← formatterMessages_eq]
      exact reformat_of_error herror

/--
The first request to format the document was given up. Behind it a formatter that needs too long for
narrow indentation is asked twice: with the default one it changes the text, and with the narrow one
the user is told.
-/
theorem after_format_reports_once_behind_failure :
    let givenUp : Features := ⟨fun _ ↦ [], fun _ _ ↦ .error .cancelled⟩
    let features : Features := ⟨fun _ ↦ [], fun _ options ↦
      if options.tabSize = 4 then .ok (.changed ['(', ')']) else .error (.timedOut 5)⟩
    let address := "file:///a.ron"
    let history : List (Features × Request) :=
      [(givenUp, .opened address ['(', ' ', ')']), (givenUp, .format address 4)]
    let now := State.after {} history
    now.documents.get? address = some ['(', ' ', ')'] ∧
    Text.byteLength ['(', ' ', ')'] < 2 ^ 32 ∧
    features.format ['(', ' ', ')'] { tabSize := 4 } = .ok (.changed ['(', ')']) ∧
    (∃ edits, (now.handle features (.format address 0)).1.answer = .edits edits ∧
      Formatter.EditorEdit.performAll? edits ['(', ' ', ')'] = some ['(', ')']) ∧
    features.format ['(', ' ', ')'] { tabSize := 2 } = .error (.timedOut 5) ∧
    (now.handle features (.format address 2)).1.messages =
      [⟨.error, "RON formatter error: formatter did not finish within 5 ms"⟩] := by
  intro givenUp features address history now
  have hstored : now.documents.get? address = some ['(', ' ', ')'] := by decide +kernel
  have hsize : Text.byteLength ['(', ' ', ')'] < 2 ^ 32 := by decide
  obtain ⟨-, -, -, hwide⟩ := after_format_reports_once {} history features address 0
  obtain ⟨-, -, -, hnarrow⟩ := after_format_reports_once {} history features address 2
  obtain ⟨-, hok, -⟩ := hwide _ hstored
  obtain ⟨-, -, herror⟩ := hnarrow _ hstored
  exact ⟨hstored, hsize, rfl, (hok _ rfl).2 hsize, rfl, (herror _ rfl).2⟩

end Server

end RonWorkbench
