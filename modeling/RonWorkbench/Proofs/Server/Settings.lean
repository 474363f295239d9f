import RonWorkbench.Proofs.Settings.Payload
import RonWorkbench.Server.Basic

/-!
# The settings of a server

After any requests each setting has the value that the last payload carries for it that carries any
and can be read, or else the value that it had at the beginning (`run_settings`). A payload that
cannot be read changes nothing, also where parts of it could be read, and the user is warned once;
of any other payload the user is told nothing. Formatters are given just these settings.

What one request does to the settings is said once, for all kinds of requests (`settings_handle`); a
run takes the payloads of its requests one after another (`settings_run`).
-/

namespace RonWorkbench.Server

open Settings.Payload (lastWritten?)

/-- The payload that a request brings, if it brings one. -/
def Request.payload? : Request → Option Json
  | .begin options => options
  | .configured payload => some payload
  | _ => none

/-- The payloads of requests in order. -/
def payloads (requests : List Request) : List Json :=
  requests.filterMap Request.payload?

/-! ### One request -/

section Request

variable (features : Features) (s : State)

theorem settings_configure (payload : Json) :
    (s.configure payload).2.settings = s.settings.take payload := by
  unfold State.configure Settings.FormatterSettings.take
  cases Settings.Changes.ofPayload payload <;> rfl

/-- The path could be read, but the width could not: neither is taken. -/
example :
    State.configure {} (.object [("formatter", .array [.string "fmt", .null, .string "wide"])]) =
      ([⟨.warning, "Ignoring invalid RON formatter settings: " ++
        "invalid type: string \"wide\", expected u32"⟩], {}) := by
  decide +kernel

/-- A request with a payload is answered as the payload is taken. -/
theorem handle_of_payload?_eq_some {request : Request} {payload : Json}
    (h : request.payload? = some payload) :
    (s.handle features request).2 = (s.configure payload).2 ∧
      (s.handle features request).1.messages = (s.configure payload).1 := by
  cases request with
  | begin options =>
    obtain rfl : options = some payload := h
    exact ⟨rfl, rfl⟩
  | configured other =>
    obtain rfl : other = payload := by simpa [Request.payload?] using h
    exact ⟨rfl, rfl⟩
  | _ => simp [Request.payload?] at h

/-- A request takes the payload that it brings, and changes no settings otherwise. -/
theorem settings_handle (request : Request) :
    (s.handle features request).2.settings =
      request.payload?.toList.foldl Settings.FormatterSettings.take s.settings := by
  cases h : request.payload? with
  | some payload =>
    rw [(handle_of_payload?_eq_some features s h).1, settings_configure]
    rfl
  | none =>
    cases request with
    | begin options =>
      obtain rfl : options = none := h
      rfl
    | configured payload => simp [Request.payload?] at h
    | changed address texts =>
      rw [State.handle]
      split <;> rfl
    | highlight address | format address tabSize =>
      rw [State.handle]
      split <;> rfl
    | opened address text | closed address | ready | leave => rfl

/-- Formatting a document asks the formatter once. -/
theorem consulted_reformat (text : List Char) (options : Formatter.Options) :
    (State.reformat features text options).consulted = [.format text options] := by
  unfold State.reformat
  dsimp only
  split
  · rfl
  · split <;> rfl

/-- A document that is kept is formatted with the settings as they are. -/
theorem handle_format_of_get? {address : String} {text : List Char}
    (h : s.documents.get? address = some text) (tabSize : Nat) :
    s.handle features (.format address tabSize) =
      (State.reformat features text (s.settings.toOptions (some tabSize)), s) := by
  simp only [State.handle, h]

end Request

/-! ### A run -/

section Run

variable (features : Features) (s : State) (requests : List Request)

theorem run_cons (request : Request) :
    s.run features (request :: requests) =
      ((s.handle features request).1 :: ((s.handle features request).2.run features requests).1,
        ((s.handle features request).2.run features requests).2) :=
  rfl

/-- The last request of a run comes to what the others have left. -/
theorem run_concat (request : Request) :
    s.run features (requests ++ [request]) =
      ((s.run features requests).1 ++
          [((s.run features requests).2.handle features request).1],
        ((s.run features requests).2.handle features request).2) := by
  induction requests generalizing s with
  | nil => rfl
  | cons first more ih => rw [List.cons_append, run_cons, run_cons, ih, List.cons_append]

/-- **A run takes the payloads of its requests one after another.** -/
theorem settings_run :
    (s.run features requests).2.settings =
      (payloads requests).foldl Settings.FormatterSettings.take s.settings := by
  induction requests generalizing s with
  | nil => rfl
  | cons request more ih =>
    rw [run_cons, ih, settings_handle, ← List.foldl_append]
    congr 1
    cases h : request.payload? with
    | none => exact (List.filterMap_cons_none h).symm
    | some payload => exact (List.filterMap_cons_some h).symm

end Run

/--
**Each setting is what the last payload made it.** After any requests to a server, each setting that
an editor can send has the value that is carried for it by the last payload that can be read and
carries it, or else the value that it had at the beginning; the others never change.

Whatever request comes next: if it brings a payload that cannot be read, nothing at all is changed
and the user is warned once; of a payload that can be read the user is told nothing; and if it is
to format a document, the formatter is asked once, with the settings as they are and the tab size
of the request, for which a zero stands for four.
-/
theorem run_settings (features : Features) (s : State) (requests : List Request)
    (request : Request) :
    let now := (s.run features requests).2
    (∀ setting, now.settings.value setting =
      (lastWritten? setting (payloads requests)).getD (s.settings.value setting)) ∧
    now.settings.tabSize = s.settings.tabSize ∧
    now.settings.outputLimit = s.settings.outputLimit ∧
    ∃ reply next,
      s.run features (requests ++ [request]) = ((s.run features requests).1 ++ [reply], next) ∧
      (∀ payload, request.payload? = some payload →
        match Settings.Changes.ofPayload payload with
        | .ok _ => reply.messages = []
        | .error fault => next = now ∧ reply.messages =
            [⟨.warning, s!"Ignoring invalid RON formatter settings: {fault.message}"⟩]) ∧
      (∀ address tabSize text, request = .format address tabSize →
        now.documents.get? address = some text →
        reply.consulted = [.format text
          { program := now.settings.path
            extraArgs := now.settings.extraArgs
            tabSize := if tabSize = 0 then 4 else tabSize
            maxWidth := now.settings.maxWidth
            mode := if now.settings.useStdin then .stdin else .tempFile
            timeout := now.settings.timeout
            outputLimit := now.settings.outputLimit }]) := by
  intro now
  -- The settings are a fold over the payloads; all requests without one leave them.
  have hnow : now.settings =
      (payloads requests).foldl Settings.FormatterSettings.take s.settings :=
    settings_run features s requests
  obtain ⟨htabSize, hlimit⟩ := Settings.unsent_foldl_take s.settings (payloads requests)
  refine ⟨fun setting ↦ ?_, ?_, ?_, _, _, run_concat features s requests request,
    fun payload hpayload ↦ ?_, fun address tabSize text hrequest hstored ↦ ?_⟩
  · rw [hnow, Settings.value_foldl_take]
  · rw [hnow, htabSize]
  · rw [hnow, hlimit]
  · obtain ⟨hnext, hmessages⟩ := handle_of_payload?_eq_some features now hpayload
    rw [hnext, hmessages, State.configure]
    cases Settings.Changes.ofPayload payload with
    | ok changes => rfl
    | error fault => exact ⟨rfl, rfl⟩
  · rw [hrequest, handle_format_of_get? features now hstored, consulted_reformat]
    rfl

/-- A payload is taken, one that cannot be read is not, and the formatter is asked with the first.
-/
example :
    let features : Features := ⟨fun _ ↦ [], fun _ _ ↦ .ok .unchanged⟩
    let payload (members : List (String × Json)) : Json :=
      .object [("ron", .object [("formatter", .object members)])]
    let replies := (State.run features {}
      [.opened "a.ron" ['(', ')'],
        .configured (payload [("path", .string "fmt"), ("useStdin", .bool true)]),
        .configured (payload [("path", .string "other"), ("maxWidth", .integer (-1))]),
        .format "a.ron" 0]).1
    replies.map Reply.messages = [[], [],
      [⟨.warning, "Ignoring invalid RON formatter settings: " ++
        "invalid value: integer `-1`, expected u32"⟩],
      []] ∧
    replies.map Reply.consulted = [[], [], [],
      [.format ['(', ')'] { program := "fmt", mode := .stdin }]] := by
  decide +kernel

end RonWorkbench.Server
