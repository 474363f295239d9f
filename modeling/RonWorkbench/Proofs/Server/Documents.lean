import RonWorkbench.Server.Basic

/-!
# The documents of a server

What a server answers about a document is told from the requests that it has had, whatever they were
and whatever documents they were about (`run_answers`). The text that it keeps for an address is the
one that the last request about that text gives (`lastTold`), and it answers if there is one.

A document is open from where it is opened to where it is closed (`IsOpen`). But the text of a
change is kept whether or not the document is open, so the server also answers for documents that it
was told of by a change alone, or by a change that came after they were closed (`IsKept`,
`run_answers_late_change`). It answers just for open documents as long as only open documents are
changed (`IsOrderly`).

What a request does to the texts is said once, for all kinds of requests (`get?_documents_handle`);
what a run does to them is what the last request does that tells anything (`get?_documents_run`).
-/

namespace RonWorkbench.Server

/-- What a request tells of the text at an address: the text to keep, to keep none, or nothing. -/
def Request.tells (address : String) : Request → Option (Option (List Char))
  | .opened other text => if address = other then some (some text) else none
  | .changed other texts => if address = other then texts.getLast?.map some else none
  | .closed other => if address = other then some none else none
  | _ => none

/-- What the last request that tells anything of the text at an address tells of it. -/
def lastTold (address : String) (requests : List Request) : Option (Option (List Char)) :=
  requests.reverse.findSome? (Request.tells address)

/-- The document was opened, and not closed since. -/
def IsOpen (address : String) (requests : List Request) : Prop :=
  ∃ before text after,
    requests = before ++ .opened address text :: after ∧ .closed address ∉ after

/-- The document was opened or changed, and not closed since. -/
def IsKept (address : String) (requests : List Request) : Prop :=
  ∃ before request text after, requests = before ++ request :: after ∧
    request.tells address = some (some text) ∧ .closed address ∉ after

/-- The document was changed only where it was open; a change without texts does not count. -/
def IsOrderly (address : String) (requests : List Request) : Prop :=
  ∀ before texts after, requests = before ++ .changed address texts :: after → texts ≠ [] →
    IsOpen address before

namespace Request

variable {address : String} {request : Request}

/-- A text that is kept comes with an opening, or with a change that has a text. -/
theorem eq_of_tells_eq_some_some {text : List Char} (h : request.tells address = some (some text)) :
    request = .opened address text ∨ ∃ texts, request = .changed address texts ∧ texts ≠ [] := by
  cases request with
  | opened other text' =>
    obtain ⟨rfl, rfl⟩ : address = other ∧ text' = text := by simpa [tells] using h
    exact .inl rfl
  | changed other texts =>
    obtain ⟨rfl, hlast⟩ : address = other ∧ texts.getLast? = some text := by simpa [tells] using h
    refine .inr ⟨texts, rfl, ?_⟩
    rintro rfl
    simp at hlast
  | closed other => simp [tells] at h
  | _ => simp [tells] at h

/-- Only closing a document tells that no text is kept. -/
theorem tells_eq_some_none_iff : request.tells address = some none ↔ request = .closed address := by
  cases request <;> simp [tells, eq_comm]

end Request

/-! ### What a run keeps -/

section Run

variable (features : Features) (s : State) (address : String)

theorem documents_configure (payload : Json) :
    (s.configure payload).2.documents = s.documents := by
  unfold State.configure
  split <;> rfl

/-- A request leaves the text that it tells, or else the one that was there. -/
theorem get?_documents_handle (request : Request) :
    (s.handle features request).2.documents.get? address =
      (request.tells address).getD (s.documents.get? address) := by
  cases request with
  | opened other text =>
    rw [State.handle, Keyed.get?_set, Request.tells]
    split <;> rfl
  | changed other texts =>
    rw [State.handle, Request.tells]
    cases texts.getLast? with
    | none => simp
    | some text =>
      rw [Keyed.get?_set]
      split <;> rfl
  | closed other =>
    rw [State.handle, Keyed.get?_erase, Request.tells]
    split <;> rfl
  | begin options => exact congrArg (Keyed.get? · address) (documents_configure s _)
  | configured payload => exact congrArg (Keyed.get? · address) (documents_configure s _)
  | highlight other | format other tabSize =>
    rw [State.handle]
    split <;> rfl
  | ready | leave => rfl

/-- **A run leaves the text that was told last.** -/
theorem get?_documents_run (requests : List Request) :
    (s.run features requests).2.documents.get? address =
      (lastTold address requests).getD (s.documents.get? address) := by
  induction requests generalizing s with
  | nil => rfl
  | cons request more ih =>
    rw [State.run, ih, get?_documents_handle, lastTold, lastTold, List.reverse_cons,
      List.findSome?_append]
    cases more.reverse.findSome? (Request.tells address) <;> simp

/-- A server that has started without documents keeps nothing but what was told last. -/
theorem get?_documents_run_eq_some_iff (settings : Settings.FormatterSettings)
    (requests : List Request) {text : List Char} :
    (State.run features { settings } requests).2.documents.get? address = some text ↔
      lastTold address requests = some (some text) := by
  rw [get?_documents_run]
  cases lastTold address requests <;> simp

end Run

/-! ### Documents that are kept and documents that are open -/

section Kept

variable {address : String} {requests : List Request}

/-- What is told last is told by a request behind which nothing is told. -/
theorem lastTold_eq_some_iff {told : Option (List Char)} :
    lastTold address requests = some told ↔
      ∃ before request after, requests = before ++ request :: after ∧
        request.tells address = some told ∧ ∀ later ∈ after, later.tells address = none := by
  rw [lastTold, List.findSome?_eq_some_iff]
  constructor
  · rintro ⟨later, request, earlier, hsplit, htells, hlater⟩
    refine ⟨earlier.reverse, request, later.reverse, by simpa using congrArg List.reverse hsplit,
      htells, fun r hr ↦ hlater r (List.mem_reverse.1 hr)⟩
  · rintro ⟨before, request, after, rfl, htells, hafter⟩
    exact ⟨after.reverse, request, before.reverse, by simp, htells,
      fun r hr ↦ hafter r (List.mem_reverse.1 hr)⟩

/-- A text is kept just if the last request that tells anything of it gives it. -/
theorem isKept_iff :
    IsKept address requests ↔ ∃ text, lastTold address requests = some (some text) := by
  constructor
  · rintro ⟨before, request, text, after, rfl, htells, hclosed⟩
    rw [lastTold, List.reverse_append, List.reverse_cons, List.append_assoc, List.findSome?_append]
    -- what is told behind the request counts before it, and it is not to keep none
    cases hlater : after.reverse.findSome? (Request.tells address) with
    | none => exact ⟨text, by simp [htells]⟩
    | some told =>
      cases told with
      | none =>
        obtain ⟨later, hmem, hnone⟩ := List.exists_of_findSome?_eq_some hlater
        rw [Request.tells_eq_some_none_iff.1 hnone] at hmem
        exact absurd (List.mem_reverse.1 hmem) hclosed
      | some text => exact ⟨text, rfl⟩
  · rintro ⟨text, hlast⟩
    obtain ⟨before, request, after, hsplit, htells, hafter⟩ := lastTold_eq_some_iff.1 hlast
    refine ⟨before, request, text, after, hsplit, htells, fun hclosed ↦ ?_⟩
    have hnone := hafter _ hclosed
    rw [Request.tells_eq_some_none_iff.2 rfl] at hnone
    simp at hnone

theorem IsOpen.isKept (h : IsOpen address requests) : IsKept address requests := by
  obtain ⟨before, text, after, hsplit, hclosed⟩ := h
  exact ⟨before, .opened address text, text, after, hsplit, by simp [Request.tells], hclosed⟩

/-- A document that is changed only where it is open is kept only where it is open. -/
theorem IsOrderly.isOpen (h : IsOrderly address requests) (hkept : IsKept address requests) :
    IsOpen address requests := by
  obtain ⟨before, request, text, after, rfl, htells, hclosed⟩ := hkept
  rcases Request.eq_of_tells_eq_some_some htells with rfl | ⟨texts, rfl, hne⟩
  · exact ⟨before, text, after, rfl, hclosed⟩
  · -- the change came to an open document, which nothing has closed since
    obtain ⟨earlier, first, between, rfl, hbetween⟩ := h before texts after rfl hne
    refine ⟨earlier, first, between ++ .changed address texts :: after, by simp, ?_⟩
    simp [hbetween, hclosed]

end Kept

/-! ### What is answered -/

theorem answer_highlight_ne_nothing (features : Features) (text : List Char) :
    (State.highlight features text).answer ≠ .nothing := by
  unfold State.highlight
  dsimp only
  split <;> simp

theorem answer_reformat_ne_nothing (features : Features) (text : List Char)
    (options : Formatter.Options) :
    (State.reformat features text options).answer ≠ .nothing := by
  unfold State.reformat
  dsimp only
  split
  · simp
  · split <;> simp

/--
**A server answers for the documents that it keeps.** After any requests to a server that started
without documents, it answers nothing for a document that is not kept, tells the user nothing and
asks its features nothing. For a document that is kept it always answers, and what its features are
asked about is the text that was told last.

An open document is kept. A document that is kept is open as long as only open documents are
changed.
-/
theorem run_answers (features : Features) (settings : Settings.FormatterSettings)
    (requests : List Request) (address : String) (tabSize : Nat) :
    let last := (State.run features { settings } requests).2
    (¬IsKept address requests →
      last.handle features (.highlight address) = ({}, last) ∧
        last.handle features (.format address tabSize) = ({}, last)) ∧
    (IsKept address requests → ∃ text, lastTold address requests = some (some text) ∧
      last.handle features (.highlight address) = (State.highlight features text, last) ∧
      (State.highlight features text).answer ≠ .nothing ∧
      last.handle features (.format address tabSize) =
        (State.reformat features text (last.settings.toOptions (some tabSize)), last) ∧
      (State.reformat features text (last.settings.toOptions (some tabSize))).answer ≠ .nothing) ∧
    (IsOpen address requests → IsKept address requests) ∧
    (IsOrderly address requests → IsKept address requests → IsOpen address requests) := by
  intro last
  have hlast {text : List Char} : last.documents.get? address = some text ↔
      lastTold address requests = some (some text) :=
    get?_documents_run_eq_some_iff features address settings requests
  refine ⟨fun hkept ↦ ?_, fun hkept ↦ ?_, IsOpen.isKept, IsOrderly.isOpen⟩
  · have hnone : last.documents.get? address = none :=
      Option.eq_none_iff_forall_ne_some.2 fun text hsome ↦
        hkept (isKept_iff.2 ⟨text, hlast.1 hsome⟩)
    simp [State.handle, hnone]
  · obtain ⟨text, htold⟩ := isKept_iff.1 hkept
    have hsome : last.documents.get? address = some text := hlast.2 htold
    refine ⟨text, htold, ?_, answer_highlight_ne_nothing features text, ?_,
      answer_reformat_ne_nothing features text _⟩
    · simp [State.handle, hsome]
    · simp [State.handle, hsome]

/-- A change that comes after its document was closed: it is not open, but it is answered for. -/
theorem run_answers_late_change :
    let features : Features := ⟨Highlight.ofText, fun _ _ ↦ .ok .unchanged⟩
    let late : List Char := ['l', 'a', 't', 'e', ':', ' ', '1']
    let requests : List Request :=
      [.opened "file:///scene.ron" ['(', 'a', ':', ' ', '1', ')'], .closed "file:///scene.ron",
        .changed "file:///scene.ron" [late]]
    let last := (State.run features {} requests).2
    ¬IsOpen "file:///scene.ron" requests ∧
    (last.handle features (.highlight "file:///scene.ron")).1 =
      { answer := .spans [⟨0, 0, 4, 7⟩, ⟨0, 4, 1, 9⟩, ⟨0, 2, 1, 3⟩], consulted := [.spans late] } ∧
    (last.handle features (.format "file:///scene.ron" 4)).1 =
      { answer := .edits [], consulted := [.format late {}] } := by
  intro features late requests last
  refine ⟨?_, ?_, ?_⟩
  · rintro ⟨before, text, after, hsplit, hclosed⟩
    obtain ⟨-, -, rfl⟩ :
        before = [] ∧ text = ['(', 'a', ':', ' ', '1', ')'] ∧ after = requests.tail := by
      simpa [requests, List.cons_eq_append_iff] using hsplit
    exact hclosed List.mem_cons_self
  · decide +kernel
  · decide +kernel

end RonWorkbench.Server
