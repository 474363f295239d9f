import RonWorkbench.Proofs.Server.Documents
import RonWorkbench.Proofs.Server.Settings

/-!
# Which text a request sees

A question about a document is answered from the text that came with the last opening or change of
that document, if it has not been closed since (`IsLatest`), and from no other text; if there is no
such text, there is no answer. So what was told of other documents has no part in the answer, nor
have the questions that were asked before: without them the same question is answered the same
(`run_sees_latest`).

The answer rests on the text and on the settings. The text is the one told last, and requests that
do not matter to the document tell nothing of it (`lastTold_filter`); the settings come with
payloads, and such requests bring none (`payloads_filter`).
-/

namespace RonWorkbench.Server

/-- The text that the features were asked about. -/
def Consultation.text : Consultation → List Char
  | .spans text | .format text _ => text

/--
The text came with the last opening or change of the document, and the document has not been closed
since. Of the texts of one change the last one counts; a change without texts is none.
-/
def IsLatest (address : String) (text : List Char) (requests : List Request) : Prop :=
  ∃ before request after, requests = before ++ request :: after ∧
    (request = .opened address text ∨ ∃ texts, request = .changed address (texts ++ [text])) ∧
    .closed address ∉ after ∧
    (∀ other, .opened address other ∉ after) ∧
    ∀ texts, .changed address texts ∈ after → texts = []

namespace Request

/-- The request asks about the document at an address. -/
def asksAbout (address : String) : Request → Bool
  | .highlight other | .format other _ => address == other
  | _ => false

/--
The request is no question and not about the document at another address: it is about the one at
this address, or about no document.
-/
def matters (address : String) : Request → Bool
  | .opened other _ | .changed other _ | .closed other => address == other
  | .highlight _ | .format _ _ => false
  | .begin _ | .configured _ | .ready | .leave => true

/-- The reply to a question about a document, from its text. -/
def answerFrom (features : Features) (settings : Settings.FormatterSettings) (text : List Char) :
    Request → Reply
  | .highlight _ => State.highlight features text
  | .format _ tabSize => State.reformat features text (settings.toOptions (some tabSize))
  | _ => {}

variable {address : String} {request : Request}

/-- A text is told by an opening with it, or by a change of which it is the last text. -/
theorem tells_eq_some_some_iff {text : List Char} :
    request.tells address = some (some text) ↔
      request = .opened address text ∨ ∃ texts, request = .changed address (texts ++ [text]) := by
  cases request with
  | opened other text' => simp [tells, eq_comm]
  | changed other texts =>
    by_cases h : address = other
    · simp [tells, h, List.getLast?_eq_some_iff]
    · simp [tells, h, Ne.symm h]
  | closed other => simp [tells]
  | _ => simp [tells]

/-- Nothing is told by what is neither a closing nor an opening nor a change with a text. -/
theorem tells_eq_none_iff :
    request.tells address = none ↔
      request ≠ .closed address ∧ (∀ text, request ≠ .opened address text) ∧
        ∀ texts, request = .changed address texts → texts = [] := by
  cases request with
  | opened other text => simp [tells, eq_comm]
  | changed other texts => simp [tells, eq_comm (a := other)]
  | closed other => simp [tells, eq_comm]
  | _ => simp [tells]

theorem tells_eq_none_of_matters (h : request.matters address = false) :
    request.tells address = none := by
  cases request <;> simp_all [matters, tells]

theorem payload?_eq_none_of_matters (h : request.matters address = false) :
    request.payload? = none := by
  cases request <;> simp_all [matters, payload?]

end Request

section History

variable {address : String} (requests : List Request)

/-- The latest text is the one that is told last. -/
theorem isLatest_iff {text : List Char} :
    IsLatest address text requests ↔ lastTold address requests = some (some text) := by
  rw [lastTold_eq_some_iff]
  constructor
  · rintro ⟨before, request, after, hsplit, hgives, hclosed, hopened, hchanged⟩
    refine ⟨before, request, after, hsplit, Request.tells_eq_some_some_iff.2 hgives,
      fun later hlater ↦ Request.tells_eq_none_iff.2 ⟨?_, ?_, ?_⟩⟩
    · rintro rfl
      exact hclosed hlater
    · rintro other rfl
      exact hopened other hlater
    · rintro texts rfl
      exact hchanged texts hlater
  -- A request that tells nothing is neither of the three that could replace the text.
  · rintro ⟨before, request, after, hsplit, htells, hafter⟩
    have hnothing {later : Request} (hlater : later ∈ after) :=
      Request.tells_eq_none_iff.1 (hafter later hlater)
    exact ⟨before, request, after, hsplit, Request.tells_eq_some_some_iff.1 htells,
      fun h ↦ (hnothing h).1 rfl, fun other h ↦ (hnothing h).2.1 other rfl,
      fun texts h ↦ (hnothing h).2.2 texts rfl⟩

/-- What is gathered from requests is gathered from those that matter, if others give nothing. -/
theorem filterMap_filter_matters {β : Type} {gather : Request → Option β}
    (h : ∀ request, Request.matters address request = false → gather request = none) :
    (requests.filter (Request.matters address)).filterMap gather = requests.filterMap gather := by
  rw [List.filterMap_filter]
  congr 1
  funext request
  cases hmatters : request.matters address with
  | true => rfl
  | false => exact (h request hmatters).symm

variable (address)

/-- What does not matter to a document tells nothing of its text. -/
theorem lastTold_filter :
    lastTold address (requests.filter (Request.matters address)) = lastTold address requests := by
  rw [lastTold, lastTold, ← List.head?_filterMap, ← List.head?_filterMap, ← List.filter_reverse,
    filterMap_filter_matters _ fun _ ↦ Request.tells_eq_none_of_matters]

/-- What does not matter to a document brings no settings. -/
theorem payloads_filter :
    payloads (requests.filter (Request.matters address)) = payloads requests :=
  filterMap_filter_matters requests fun _ ↦ Request.payload?_eq_none_of_matters

end History

/-! ### Replies -/

section Reply

variable {address : String} {request : Request} (features : Features)

/-- A question is answered from the text that is kept, and changes nothing. -/
theorem handle_of_asksAbout (s : State) (hasks : request.asksAbout address) :
    s.handle features request =
      ((s.documents.get? address).elim {} fun text ↦
        request.answerFrom features s.settings text, s) := by
  cases request with
  | highlight other | format other tabSize =>
    obtain rfl : address = other := by simpa [Request.asksAbout] using hasks
    rw [State.handle]
    cases s.documents.get? address <;> rfl
  | _ => simp [Request.asksAbout] at hasks

/-- The features are asked about the text that a question is answered from, and about no other. -/
theorem texts_answerFrom (settings : Settings.FormatterSettings) (text : List Char)
    (hasks : request.asksAbout address) :
    (request.answerFrom features settings text).consulted.map Consultation.text = [text] := by
  cases request with
  | highlight other => rfl
  | format other tabSize => rw [Request.answerFrom, consulted_reformat]; rfl
  | _ => simp [Request.asksAbout] at hasks

/-- Histories that tell a document the same last and bring the same payloads are answered alike. -/
theorem handle_run_congr (settings : Settings.FormatterSettings) {first second : List Request}
    (hasks : request.asksAbout address)
    (htold : lastTold address first = lastTold address second)
    (hpayloads : payloads first = payloads second) :
    ((State.run features { settings } first).2.handle features request).1 =
      ((State.run features { settings } second).2.handle features request).1 := by
  rw [handle_of_asksAbout features _ hasks, handle_of_asksAbout features _ hasks,
    get?_documents_run, get?_documents_run, settings_run, settings_run, htold, hpayloads]

end Reply

/--
**A request sees the latest text of its own document.** After any requests to a server that started
without documents, a question about a document is answered from a text just if this is the latest
text of the document, and then the reply is the one that this text and the settings give; where
there is no latest text the reply is empty.

Without the questions that were asked before and without all that was told of other documents, the
reply is the same.
-/
theorem run_sees_latest (features : Features) (settings : Settings.FormatterSettings)
    (requests : List Request) {request : Request} {address : String}
    (hasks : request.asksAbout address) :
    let now := (State.run features { settings } requests).2
    ∃ reply,
      (State.run features { settings } (requests ++ [request])).1.getLast? = some reply ∧
      (∀ text, text ∈ reply.consulted.map Consultation.text ↔ IsLatest address text requests) ∧
      (∀ text, IsLatest address text requests →
        reply = request.answerFrom features now.settings text) ∧
      ((∀ text, ¬IsLatest address text requests) → reply = {}) ∧
      (State.run features { settings }
        (requests.filter (Request.matters address) ++ [request])).1.getLast? = some reply := by
  intro now
  -- What is stored is what was told last, and that is the latest text.
  have hstored {text : List Char} :
      now.documents.get? address = some text ↔ IsLatest address text requests := by
    rw [get?_documents_run_eq_some_iff, isLatest_iff]
  have hreply := handle_of_asksAbout features now hasks
  refine ⟨(now.handle features request).1, ?_, fun text ↦ ?_, fun text hlatest ↦ ?_,
    fun hnone ↦ ?_, ?_⟩
  · rw [run_concat, List.getLast?_concat]
  · rw [hreply, ← hstored]
    cases now.documents.get? address with
    | none => simp
    | some kept =>
      rw [Option.elim_some, texts_answerFrom features _ kept hasks]
      simp [eq_comm]
  · rw [hreply, hstored.2 hlatest, Option.elim_some]
  · have hget : now.documents.get? address = none :=
      Option.eq_none_iff_forall_ne_some.2 fun text hsome ↦ hnone text (hstored.1 hsome)
    rw [hreply, hget, Option.elim_none]
  -- The requests left out told nothing about this document and nothing about the settings.
  · rw [run_concat, List.getLast?_concat, handle_run_congr features settings hasks
      (lastTold_filter address requests) (payloads_filter address requests)]

/-- Of two texts of one change the second counts, and a change without texts does not. -/
theorem run_sees_latest_among_others :
    let features : Features := ⟨Highlight.ofText, fun _ _ ↦ .error (.failed "unexpected end")⟩
    let requests : List Request :=
      [.opened "file:///a.ron" ['1'], .opened "file:///b.ron" ['(', ')'],
        .changed "file:///a.ron" [['2'], ['3']], .changed "file:///a.ron" [],
        .format "file:///a.ron" 2, .closed "file:///b.ron", .configured .null]
    let question : Request := .highlight "file:///a.ron"
    question.asksAbout "file:///a.ron" = true ∧
    IsLatest "file:///a.ron" ['3'] requests ∧
    ∃ reply,
      (State.run features {} (requests ++ [question])).1.getLast? = some reply ∧
      reply = State.highlight features ['3'] ∧
      (State.run features {}
        (requests.filter (Request.matters "file:///a.ron") ++ [question])).1.getLast? =
          some reply := by
  intro features requests question
  have hasks : question.asksAbout "file:///a.ron" = true := by decide
  have hlatest : IsLatest "file:///a.ron" ['3'] requests :=
    ⟨requests.take 2, .changed "file:///a.ron" [['2'], ['3']], requests.drop 3, rfl,
      .inr ⟨[['2']], rfl⟩, by simp [requests], by simp [requests], by simp [requests]⟩
  obtain ⟨reply, hlast, -, hanswer, -, hothers⟩ := run_sees_latest features {} requests hasks
  exact ⟨hasks, hlatest, reply, hlast, hanswer _ hlatest, hothers⟩

end RonWorkbench.Server
