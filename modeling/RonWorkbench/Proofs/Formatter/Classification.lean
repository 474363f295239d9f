import RonWorkbench.Bits
import RonWorkbench.Proofs.Formatter.Call
import RonWorkbench.Proofs.Text.Encoding

/-!
# What a call of the formatter returns

What a formatter printed and how it ended (`Printout`) is all that counts: from this and the
document the result of the call can be told (`Returns`), unless the formatter was not started at all
(`Classified`). Each case has the negations of those that take precedence over it, so there is one
result at most; that there is one, and that it is returned, is `Formatter.format_classified`.

The result does not depend on when the host looks at the pipes. A look at a formatter that has
printed too much returns early, but with the result that the end would have given
(`Call.result_run_exchange`). Nor does it matter that a pipe is read only up to one byte more than
allowed (`readPipe_eq`).
-/

namespace RonWorkbench.Formatter

/-- To one of the pipes more is printed than allowed. -/
def Printout.Exceeds (out : Printout) (limit : Nat) : Prop :=
  limit < out.stdout.length ∨ limit < out.stderr.length

/-- What a call returns for the text if its formatter has run. -/
inductive Returns (limit : Nat) (text : List Char) (out : Printout) : Except Fault Outcome → Prop
  /-- More was printed than allowed, whatever it was and however the formatter ended. -/
  | outputTooLarge (hsize : out.Exceeds limit) :
      Returns limit text out (.error (.outputTooLarge limit))
  /-- The formatter reported a failure and said something. -/
  | failed {words : List Char} (hsize : ¬out.Exceeds limit) (hstatus : out.status ≠ .code 0)
      (hwords : Text.trim (Text.decodeLossy out.stderr) = words) (hne : words ≠ []) :
      Returns limit text out (.error (.failed (String.ofList words)))
  /-- The formatter reported a failure and said nothing. -/
  | failedSilently (hsize : ¬out.Exceeds limit) (hstatus : out.status ≠ .code 0)
      (hwords : Text.trim (Text.decodeLossy out.stderr) = []) :
      Returns limit text out (.error (.failed ("formatter exited with " ++ out.status.describe)))
  /-- What was printed is the encoding of no text. -/
  | invalidUtf8 (hsize : ¬out.Exceeds limit) (hstatus : out.status = .code 0)
      (hbytes : ∀ output, out.stdout ≠ Text.encode output) :
      Returns limit text out (.error .invalidUtf8)
  /-- The text was printed, byte for byte. -/
  | unchanged (hsize : ¬out.Exceeds limit) (hstatus : out.status = .code 0)
      (hbytes : out.stdout = Text.encode text) : Returns limit text out (.ok .unchanged)
  /-- Another text was printed, and all of it is the result. -/
  | changed {output : List Char} (hsize : ¬out.Exceeds limit) (hstatus : out.status = .code 0)
      (hbytes : out.stdout = Text.encode output) (hne : out.stdout ≠ Text.encode text) :
      Returns limit text out (.ok (.changed output))

/-- The formatter gets the document on its input, or in a scratch file that it is told of. -/
inductive Host.Hands (host : Host) (options : Options) : Option String → Prop
  | stdin (hmode : options.mode = .stdin) : Hands host options none
  | tempFile {path : Path} (hmode : options.mode = .tempFile) (hscratch : host.scratch = .ok path) :
      Hands host options (some (renderPath path))

/-- Why the program cannot be started with the arguments, if it cannot. -/
def Host.obstacle? (host : Host) (program : String) (arguments : List String) : Option String :=
  nulFault? arguments <|> host.refusal? program arguments

/-- What a call returns for the text, given what its formatter prints if it is started. -/
inductive Classified (host : Host) (options : Options) (text : List Char) (out : Printout) :
    Except Fault Outcome → Prop
  /-- There is no such program. -/
  | notFound (hlocate : host.locate? options.program = none) :
      Classified host options text out (.error (.notFound options.program))
  /-- There is no scratch file for the document. -/
  | scratch {program cause : String} (hlocate : host.locate? options.program = some program)
      (hmode : options.mode = .tempFile) (hscratch : host.scratch = .error cause) :
      Classified host options text out (.error (.scratch cause))
  /-- The program cannot be started. -/
  | spawn {program cause : String} {file : Option String}
      (hlocate : host.locate? options.program = some program) (hfile : host.Hands options file)
      (hstart : host.obstacle? program (options.arguments file) = some cause) :
      Classified host options text out (.error (.spawn program cause))
  /-- The program runs. -/
  | ran {program : String} {file : Option String} {result : Except Fault Outcome}
      (hlocate : host.locate? options.program = some program) (hfile : host.Hands options file)
      (hstart : host.obstacle? program (options.arguments file) = none)
      (hreturns : Returns options.outputLimit text out result) :
      Classified host options text out result

namespace Call

/-! ### From what was printed to the result -/

section Verdict

variable {c : Call} {status : ExitStatus} {result : Except Fault Outcome}

/-- A call overflows if what was printed exceeds the limit. -/
theorem overflows_iff (status : ExitStatus) :
    c.overflows ↔ Printout.Exceeds ⟨c.stdout, c.stderr, status⟩ c.options.outputLimit := by
  simp [overflows, Printout.Exceeds]

theorem isSuccess_iff : status.isSuccess ↔ status = .code 0 :=
  ⟨ExitStatus.eq_of_isSuccess, by rintro rfl; rfl⟩

/-- **What a call says of an ended formatter** is what the printout stands for. -/
theorem returns_verdict :
    Returns c.options.outputLimit c.text ⟨c.stdout, c.stderr, status⟩ (c.verdict status) := by
  unfold verdict
  split
  · next hsize => exact .outputTooLarge ((overflows_iff status).1 hsize)
  · next hsize =>
    rw [overflows_iff status] at hsize
    split
    · next hstatus =>
      rw [Bool.not_eq_true', ← Bool.not_eq_true, isSuccess_iff] at hstatus
      unfold complaint
      split
      · next hwords => exact .failedSilently hsize hstatus hwords
      · next words hwords => exact .failed hsize hstatus rfl hwords
    · next hstatus =>
      rw [Bool.not_eq_true', Bool.not_eq_false, isSuccess_iff] at hstatus
      split
      · next hbytes =>
        refine .invalidUtf8 hsize hstatus fun output houtput ↦ ?_
        rw [Text.decode?_eq_some_iff.2 houtput.symm] at hbytes
        simp at hbytes
      · next output hbytes =>
        have houtput := (Text.decode?_eq_some_iff.1 hbytes).symm
        unfold Outcome.ofOutput
        split
        · next heq => exact .unchanged hsize hstatus (heq ▸ houtput)
        · next hne =>
          rw [← Text.encode_inj, ← houtput] at hne
          exact .changed hsize hstatus houtput hne

/-- **The verdict on a call is what the cases say.** -/
theorem verdict_eq_iff :
    c.verdict status = result ↔
      Returns c.options.outputLimit c.text ⟨c.stdout, c.stderr, status⟩ result := by
  -- The cases exclude each other, so what one of them gives is the verdict.
  refine ⟨fun h ↦ h ▸ returns_verdict, fun h ↦ ?_⟩
  have hfits (hsize : ¬Printout.Exceeds ⟨c.stdout, c.stderr, status⟩ c.options.outputLimit) :
      c.overflows = false := by
    rwa [← overflows_iff status, Bool.not_eq_true] at hsize
  have hfails (hstatus : status ≠ .code 0) : status.isSuccess = false := by
    rwa [← Bool.not_eq_true, isSuccess_iff]
  cases h with
  | outputTooLarge hsize => simp [verdict, (overflows_iff status).2 hsize]
  | failed hsize hstatus hwords hne =>
    subst hwords
    have hcomplaint : complaint c.stderr status =
        String.ofList (Text.trim (Text.decodeLossy c.stderr)) := by
      unfold complaint
      split
      · next hwords => exact absurd hwords hne
      · rfl
    simp [verdict, hfits hsize, hfails hstatus, hcomplaint]
  | failedSilently hsize hstatus hwords =>
    have hcomplaint : complaint c.stderr status = "formatter exited with " ++ status.describe := by
      unfold complaint
      rw [hwords]
      rfl
    simp [verdict, hfits hsize, hfails hstatus, hcomplaint]
  | invalidUtf8 hsize hstatus hbytes =>
    have hdecode : Text.decode? c.stdout = none := by
      rw [← Option.not_isSome_iff_eq_none, Option.isSome_iff_exists]
      rintro ⟨output, houtput⟩
      exact hbytes output (Text.decode?_eq_some_iff.1 houtput).symm
    simp [verdict, hfits hsize, isSuccess_iff.2 hstatus, hdecode]
  | unchanged hsize hstatus hbytes =>
    have hdecode := Text.decode?_eq_some_iff.2 hbytes.symm
    simp [verdict, hfits hsize, isSuccess_iff.2 hstatus, hdecode, Outcome.ofOutput]
  | changed hsize hstatus hbytes hne =>
    have hdecode := Text.decode?_eq_some_iff.2 hbytes.symm
    rw [hbytes, Ne, Text.encode_inj] at hne
    simp [verdict, hfits hsize, isSuccess_iff.2 hstatus, hdecode, Outcome.ofOutput, hne]

/-- A formatter that crashes says nothing, so its status is what the user is told. -/
example : complaint [] (.signal 11 true) =
    "formatter exited with signal: 11 (SIGSEGV) (core dumped)" := by
  decide +kernel

end Verdict

/-! ### Looks in between -/

/-- What is complained of up to the end of the formatter. -/
def complained : List Event → List UInt8
  | [] => []
  | .complains bytes :: more => bytes ++ complained more
  | .ends _ :: _ => []
  | _ :: more => complained more

/-- The formatter ends within these events, with this printout. -/
structure Shows (events : List Event) (out : Printout) : Prop where
  stdout_eq : printed events = out.stdout
  stderr_eq : complained events = out.stderr
  ending_eq : ending? events = some out.status

/-- Neither is the time up, nor does the caller give up. -/
def Undisturbed (events : List Event) : Prop :=
  Event.deadline ∉ events ∧ Event.abandon ∉ events

section Run

variable {c : Call} {before : List Event} {status : ExitStatus}

theorem undisturbed_cons {event : Event} {events : List Event} :
    Undisturbed (event :: events) ↔
      (event ≠ .deadline ∧ event ≠ .abandon) ∧ Undisturbed events := by
  simp only [Undisturbed, List.mem_cons, not_or, ne_eq, eq_comm (a := Event.deadline),
    eq_comm (a := Event.abandon)]
  tauto

/-- A formatter's own events are no disturbance. -/
theorem undisturbed_of_isOwn (h : ∀ event ∈ before, event.isOwn = true) : Undisturbed before :=
  ⟨fun hmem ↦ by simpa [Event.isOwn] using h _ hmem, fun hmem ↦ by
    simpa [Event.isOwn] using h _ hmem⟩

/-- An undisturbed call sees acts of the formatter and looks of the host. -/
theorem isOwn_or_eq_exchange {event : Event} (h : event ≠ .deadline ∧ event ≠ .abandon) :
    event.isOwn = true ∨ event = .exchange := by
  cases event <;> simp_all [Event.isOwn]

/-- The first look at a formatter that has ended decides. -/
theorem result_run_of_ended (hresult : c.result = none)
    (hprocess : c.process = some (.ended status)) (hquiet : Undisturbed before)
    (after : List Event) :
    (c.run (before ++ .exchange :: after)).result = some (c.verdict status) := by
  have hlook (events : List Event) : (c.run (.exchange :: events)).result =
      some (c.verdict status) := by
    have hstep : c.step .exchange = c.finish (c.verdict status) := by
      simp [step, hresult, move, look, hprocess]
    rw [run_cons, hstep, run_of_isSome rfl]
    rfl
  induction before with
  | nil => exact hlook after
  | cons event more ih =>
    obtain ⟨hevent, hmore⟩ := undisturbed_cons.1 hquiet
    rcases isOwn_or_eq_exchange hevent with hown | rfl
    · have hstep : c.step event = c :=
        run_of_ended hresult hprocess (List.forall_mem_singleton.2 hown)
      rw [List.cons_append, run_cons, hstep, ih hmore]
    · exact hlook _

/--
**The host may look as often as it likes.** Whatever it sees before the end, the result is the
verdict on all that is printed up to the end.
-/
theorem result_run_exchange (hresult : c.result = none) (hprocess : c.process = some .running)
    (hquiet : Undisturbed before) (hend : ending? before = some status) (after : List Event) :
    (c.run (before ++ .exchange :: after)).result =
      some ({ c with
        stdout := c.stdout ++ printed before
        stderr := c.stderr ++ complained before }.verdict status) := by
  induction before generalizing c with
  | nil => simp [ending?] at hend
  | cons event more ih =>
    obtain ⟨hevent, hmore⟩ := undisturbed_cons.1 hquiet
    rw [List.cons_append, run_cons]
    rcases isOwn_or_eq_exchange hevent with hown | rfl
    · rw [step_of_isOwn hresult hprocess hown]
      cases event with
      | prints bytes =>
        rw [ih (c := c.act (.prints bytes)) hresult hprocess hmore hend]
        simp [act, printed, complained]
      | complains bytes =>
        rw [ih (c := c.act (.complains bytes)) hresult hprocess hmore hend]
        simp [act, printed, complained]
      | changesFiles files =>
        rw [ih (c := c.act (.changesFiles files)) hresult hprocess hmore hend]
        rfl
      | ends other =>
        obtain rfl : other = status := by simpa [ending?] using hend
        rw [result_run_of_ended (c := c.act (.ends other)) hresult rfl hmore]
        simp only [act, printed, complained, List.append_nil]
        rfl
      | exchange | deadline | abandon => simp [Event.isOwn] at hown
    · -- a look at a running formatter returns only if too much is there already
      have hstep : c.step .exchange =
          if c.overflows then c.finish (.error (.outputTooLarge c.options.outputLimit)) else c := by
        simp [step, hresult, move, look, hprocess]
      rw [hstep]
      split
      · next hsize =>
        have hmuch : ({ c with
            stdout := c.stdout ++ printed (.exchange :: more)
            stderr := c.stderr ++ complained (.exchange :: more) } : Call).overflows := by
          simp only [overflows, List.length_append, Bool.or_eq_true, decide_eq_true_eq] at hsize ⊢
          omega
        rw [run_of_isSome rfl, verdict, if_pos hmuch]
        rfl
      · rw [ih hresult hprocess hmore hend]
        rfl

end Run

/-! ### How a call begins -/

/-- The formatter of a call for the text is running and has printed nothing. -/
structure IsLaunched (options : Options) (text : List Char) (c : Call) : Prop where
  result_eq : c.result = none
  process_eq : c.process = some .running
  stdout_eq : c.stdout = []
  stderr_eq : c.stderr = []
  options_eq : c.options = options
  text_eq : c.text = text

/-- What is returned for what a running formatter shows. -/
theorem IsLaunched.exists_result {options : Options} {text : List Char} {c : Call}
    (h : c.IsLaunched options text) {before : List Event} {out : Printout}
    (hquiet : Undisturbed before) (hshows : Shows before out) (after : List Event) :
    ∃ result, (c.run (before ++ .exchange :: after)).result = some result ∧
      ∀ other, Returns options.outputLimit text out other ↔ other = result := by
  refine ⟨_, result_run_exchange h.result_eq h.process_eq hquiet hshows.ending_eq after,
    fun other ↦ ?_⟩
  rw [eq_comm (b := verdict _ _), verdict_eq_iff, hshows.stdout_eq, hshows.stderr_eq, h.stdout_eq,
    h.stderr_eq, h.options_eq, h.text_eq]
  exact Iff.rfl

end Call

section Begin

variable {host : Host} {options : Options} {text : List Char} {files : Files}

/-- There is one file at most that a host can hand over. -/
theorem Host.Hands.unique {file other : Option String} (h : host.Hands options file)
    (h' : host.Hands options other) : file = other := by
  cases h with
  | stdin hmode =>
    cases h' with
    | stdin => rfl
    | tempFile hother => simp [hmode] at hother
  | tempFile hmode hscratch =>
    cases h' with
    | stdin hother => simp [hmode] at hother
    | tempFile _ hother => rw [Except.ok.inj (hscratch.symm.trans hother)]

/-- Without a scratch file nothing is handed over in temp-file mode. -/
theorem Host.Hands.scratch_ne_error {file : Option String} {cause : String}
    (h : host.Hands options file) (hmode : options.mode = .tempFile) :
    host.scratch ≠ .error cause := by
  cases h with
  | stdin hother => simp [hmode] at hother
  | tempFile _ hscratch => simp [hscratch]

/-- A call begins in one of two ways: with the formatter running, or with a result that the printout
has no part in. -/
def Begins (host : Host) (options : Options) (text : List Char) (c : Call) : Prop :=
  (c.IsLaunched options text ∧ ∀ out result,
    Classified host options text out result ↔ Returns options.outputLimit text out result) ∨
  ∃ fault, c.result = some (.error fault) ∧ ∀ out result,
    Classified host options text out result ↔ result = .error fault

section Found

variable {program : String} {file : Option String} {out : Printout} {result : Except Fault Outcome}
  (hlocate : host.locate? options.program = some program) (hfile : host.Hands options file)
include hlocate hfile

/-- With the program found and the document handed over, the start of the program decides. -/
theorem classified_iff_of_hands :
    Classified host options text out result ↔
      (∃ cause, host.obstacle? program (options.arguments file) = some cause ∧
        result = .error (.spawn program cause)) ∨
      host.obstacle? program (options.arguments file) = none ∧
        Returns options.outputLimit text out result := by
  constructor
  · intro h
    cases h with
    | notFound hnone => simp [hlocate] at hnone
    | scratch _ hmode hscratch => exact absurd hscratch (hfile.scratch_ne_error hmode)
    | spawn hother hhands hstart =>
      obtain rfl := Option.some.inj (hlocate.symm.trans hother)
      obtain rfl := hfile.unique hhands
      exact .inl ⟨_, hstart, rfl⟩
    | ran hother hhands hstart hreturns =>
      obtain rfl := Option.some.inj (hlocate.symm.trans hother)
      obtain rfl := hfile.unique hhands
      exact .inr ⟨hstart, hreturns⟩
  · rintro (⟨cause, hstart, rfl⟩ | ⟨hstart, hreturns⟩)
    · exact .spawn hlocate hfile hstart
    · exact .ran hlocate hfile hstart hreturns

/-- The start of a program begins a call, or ends it with the fault of the start. -/
theorem begins_launch {c : Call} (hresult : c.result = none) (hstdout : c.stdout = [])
    (hstderr : c.stderr = []) (hoptions : c.options = options) (htext : c.text = text) :
    Begins host options text (c.launch host program file) := by
  subst hoptions
  unfold Call.launch
  dsimp only
  split
  · next cause hstart =>
    refine .inr ⟨.spawn program cause, rfl, fun out result ↦ ?_⟩
    rw [classified_iff_of_hands hlocate hfile, Host.obstacle?, hstart]
    simp
  · next hstart =>
    refine .inl ⟨⟨hresult, rfl, hstdout, hstderr, rfl, htext⟩, fun out result ↦ ?_⟩
    rw [classified_iff_of_hands hlocate hfile, Host.obstacle?, hstart]
    simp

end Found

/-- **Every call begins in one of the two ways.** -/
theorem begins_start (host : Host) (options : Options) (text : List Char) (files : Files) :
    Begins host options text (Call.start host files options text) := by
  unfold Call.start
  dsimp only
  split
  -- A call that ends here has one result, and no other path through the stages comes to one.
  · next hlocate =>
    refine .inr ⟨.notFound options.program, rfl, fun out result ↦ ⟨fun h ↦ ?_, ?_⟩⟩
    · cases h with
      | notFound => rfl
      | scratch hother | spawn hother | ran hother => simp [hlocate] at hother
    · rintro rfl
      exact .notFound hlocate
  · next program hlocate =>
    split
    · next hmode => exact begins_launch hlocate (.stdin hmode) rfl rfl rfl rfl rfl
    · next hmode =>
      split
      · next cause hscratch =>
        refine .inr ⟨.scratch cause, rfl, fun out result ↦ ⟨fun h ↦ ?_, ?_⟩⟩
        · cases h with
          | notFound hother => simp [hlocate] at hother
          | scratch _ _ hother => rw [Except.error.inj (hscratch.symm.trans hother)]
          | spawn _ hfile | ran _ hfile => exact absurd hscratch (hfile.scratch_ne_error hmode)
        · rintro rfl
          exact .scratch hlocate hmode hscratch
      · next path hscratch =>
        exact begins_launch hlocate (.tempFile hmode hscratch) rfl rfl rfl rfl rfl

end Begin

/-! ### Pipes that are not read to their end -/

/-- **One byte more than allowed is enough to tell that there is too much**, and otherwise all that
was printed is read. -/
theorem readPipe_eq {limit : Nat} {bytes : List UInt8} (hlimit : limit < Bits.wordCount 64)
    (hbytes : bytes.length < Bits.wordCount 64) :
    readPipe limit bytes =
      if limit < bytes.length then .error (.outputTooLarge limit) else .ok bytes := by
  have hread : limit < (bytes.take (min (limit + 1) (Bits.wordCount 64 - 1))).length ↔
      limit < bytes.length := by
    rw [List.length_take]
    omega
  unfold readPipe
  dsimp only
  split
  · next h => rw [if_pos (hread.1 h)]
  · next h =>
    rw [hread] at h
    rw [if_neg h, List.take_of_length_le (by omega)]

/-- The result from what is read is the verdict on what was printed. -/
theorem readResult_eq_verdict (c : Call) (status : ExitStatus)
    (hlimit : c.options.outputLimit < Bits.wordCount 64)
    (hstdout : c.stdout.length < Bits.wordCount 64)
    (hstderr : c.stderr.length < Bits.wordCount 64) :
    readResult c.options.outputLimit c.text ⟨c.stdout, c.stderr, status⟩ = c.verdict status := by
  unfold readResult Call.verdict Call.overflows
  rw [readPipe_eq hlimit hstdout, readPipe_eq hlimit hstderr]
  by_cases hout : c.options.outputLimit < c.stdout.length
  · simp only [hout, decide_true, Bool.true_or, if_true]
    rfl
  by_cases herr : c.options.outputLimit < c.stderr.length
  · simp only [hout, herr, decide_true, Bool.or_true, if_true, if_false]
    rfl
  simp only [hout, herr, decide_false, Bool.or_false, Bool.false_eq_true, if_false]
  cases hstatus : status.isSuccess with
  | false => rfl
  | true =>
    cases hdecode : Text.decode? c.stdout with
    | none => simp [bind, Except.bind, hdecode, throw, throwThe, MonadExceptOf.throw]
    | some output => simp [bind, Except.bind, hdecode, pure, Except.pure]

/-! ### Calls in time -/

/-- The time at which a call is stopped: its timeout, or earlier if the caller gives up before. -/
def stopTime (timeout : Nat) : Option Nat → Nat
  | some t => min t timeout
  | none => timeout

/-- What the formatter of a call does before the call is stopped. -/
def Host.actsBy (host : Host) (options : Options) (text : List Char) (files : Files) (stop : Nat) :
    List Event :=
  ((host.acts options text files).takeWhile fun act ↦
    decide (act.1 + startupTime ≤ stop)).map Prod.snd

/-- The formatter of a call acts on its own and, if it is started, ends with the printout before the
call is stopped. -/
structure Host.EndsBy (host : Host) (options : Options) (text : List Char) (files : Files)
    (stop : Nat) (out : Printout) : Prop where
  own : ∀ act ∈ host.acts options text files, act.2.isOwn = true
  shows : (Call.start host files options text).process = some .running →
    Call.Shows (host.actsBy options text files stop) out

/-- A schedule is what the formatter does in time, the exchange with it, and one event at the end.
-/
theorem exists_schedule_eq (acts : List (Nat × Event)) (timeout : Nat) (cancelAt : Option Nat) :
    ∃ last, schedule acts timeout cancelAt =
      (acts.takeWhile fun act ↦ decide (act.1 + startupTime ≤ stopTime timeout cancelAt)).map
        Prod.snd ++ .exchange :: [last] := by
  cases cancelAt with
  | none => exact ⟨.deadline, rfl⟩
  | some t =>
    by_cases h : t ≤ timeout
    · exact ⟨.abandon, by simp [schedule, stopTime, h]⟩
    · exact ⟨.deadline, by simp [schedule, stopTime, h, Nat.min_eq_right (Nat.le_of_not_le h)]⟩

section Calls

variable {host : Host} {options : Options} {text : List Char} {files : Files}

/-- A call that is not disturbed before the end of its formatter returns, and what the cases say. -/
theorem exists_result_run_start {before : List Event} {out : Printout}
    (hquiet : Call.Undisturbed before)
    (hshows : (Call.start host files options text).process = some .running →
      Call.Shows before out) (after : List Event) :
    ∃ result,
      ((Call.start host files options text).run (before ++ .exchange :: after)).result =
        some result ∧
      ∀ other, Classified host options text out other ↔ other = result := by
  rcases begins_start host options text files with
    ⟨hlaunched, hclassified⟩ | ⟨fault, hresult, hclassified⟩
  · simp only [hclassified]
    exact hlaunched.exists_result hquiet (hshows hlaunched.process_eq) after
  · refine ⟨.error fault, ?_, hclassified out⟩
    rw [Call.run_of_isSome (by simp [hresult]), hresult]

/-- A formatter that ends in time gives the result that the cases say. -/
theorem classified_iff_eq_fst_format {cancelAt : Option Nat} {out : Printout}
    (hends : host.EndsBy options text files (stopTime options.timeout cancelAt) out)
    (result : Except Fault Outcome) :
    Classified host options text out result ↔
      result = (format host options text cancelAt files).1 := by
  obtain ⟨last, hschedule⟩ :=
    exists_schedule_eq (host.acts options text files) options.timeout cancelAt
  have hquiet : Call.Undisturbed
      (host.actsBy options text files (stopTime options.timeout cancelAt)) := by
    refine Call.undisturbed_of_isOwn fun event hevent ↦ ?_
    obtain ⟨act, hact, rfl⟩ := List.mem_map.1 hevent
    exact hends.own act ((List.takeWhile_prefix _).subset hact)
  have hformat : (format host options text cancelAt files).1 =
      (((Call.start host files options text).run
        (host.actsBy options text files (stopTime options.timeout cancelAt) ++
          .exchange :: [last])).result.getD (.error (.timedOut options.timeout))) := by
    rw [Host.actsBy, ← hschedule]
    rfl
  obtain ⟨returned, hreturned, hclassified⟩ :=
    exists_result_run_start hquiet hends.shows [last]
  rw [hclassified, hformat, hreturned, Option.getD_some]

end Calls

/--
**What a call of the formatter returns is told by its printout.** The formatter may end before the
time is up and before the caller gives up; or it is not started at all. Then the call returns, and
the cases of `Classified` allow what it returns and nothing else: whatever events there are before
the end and in whatever order, looks of the host among them, and so at any time within the limits of
`format`. And it is the same result if each pipe is read only as far as is needed to tell that there
is too much, for any limit that is a word of 64 bits.
-/
theorem format_classified (host : Host) (options : Options) (text : List Char) (files : Files)
    (out : Printout) :
    (∀ before after, Call.Undisturbed before →
      ((Call.start host files options text).process = some .running → Call.Shows before out) →
      ∃ result,
        ((Call.start host files options text).run (before ++ .exchange :: after)).result =
          some result ∧
        ∀ other, Classified host options text out other ↔ other = result) ∧
    (∀ cancelAt, host.EndsBy options text files (stopTime options.timeout cancelAt) out →
      ∀ result, Classified host options text out result ↔
        result = (format host options text cancelAt files).1) ∧
    (options.outputLimit < Bits.wordCount 64 → out.stdout.length < Bits.wordCount 64 →
      out.stderr.length < Bits.wordCount 64 → ∀ result,
        Returns options.outputLimit text out result ↔
          result = readResult options.outputLimit text out) := by
  refine ⟨fun before after hquiet hshows ↦ ?_, fun cancelAt hends result ↦ ?_,
    fun hlimit hstdout hstderr result ↦ ?_⟩
  · exact exists_result_run_start hquiet hshows after
  · exact classified_iff_eq_fst_format hends result
  · let c := { Call.new files options text with stdout := out.stdout, stderr := out.stderr }
    have hverdict : readResult options.outputLimit text out = c.verdict out.status :=
      readResult_eq_verdict c out.status hlimit hstdout hstderr
    rw [hverdict, eq_comm]
    exact (Call.verdict_eq_iff (c := c)).symm

/-- As much as is allowed is printed, with a look in between, in two goes: it is not too much. -/
theorem format_classified_full_pipe :
    let host : Host :=
      { locate? := fun _ ↦ some "/bin/fmt", scratch := .ok ["tmp", "x.ron"]
        refusal? := fun _ _ ↦ none
        behaviour := fun _ _ _ _ ↦
          [(0, .prints [0x31]), (5, .complains [0x21, 0x21]), (9, .prints [0x0A]),
            (9, .ends (.code 0))] }
    let options : Options := { timeout := 10, outputLimit := 2 }
    (format host options ['1'] none .empty).1 = .ok (.changed ['1', '\n']) ∧
      ((Call.start host .empty options ['1']).run
        [.prints [0x31], .complains [0x21, 0x21], .exchange, .prints [0x0A], .ends (.code 0),
          .exchange, .deadline]).result = some (.ok (.changed ['1', '\n'])) ∧
      readResult 2 ['1'] ⟨[0x31, 0x0A], [0x21, 0x21], .code 0⟩ = .ok (.changed ['1', '\n']) := by
  intro host options
  let out : Printout := ⟨[0x31, 0x0A], [0x21, 0x21], .code 0⟩
  have hreturns : Returns 2 ['1'] out (.ok (.changed ['1', '\n'])) :=
    .changed (by simp [Printout.Exceeds, out]) rfl (by decide +kernel) (by decide +kernel)
  have hclassified : Classified host options ['1'] out (.ok (.changed ['1', '\n'])) :=
    .ran rfl (.tempFile rfl rfl) (by decide +kernel) hreturns
  obtain ⟨hruns, htimes, hreads⟩ := format_classified host options ['1'] .empty out
  have hends : host.EndsBy options ['1'] .empty (stopTime options.timeout none) out :=
    ⟨by decide +kernel, fun _ ↦ by constructor <;> decide +kernel⟩
  obtain ⟨result, hresult, hother⟩ := hruns
    [.prints [0x31], .complains [0x21, 0x21], .exchange, .prints [0x0A], .ends (.code 0)]
    [.deadline] ⟨by decide, by decide⟩ fun _ ↦ ⟨rfl, rfl, rfl⟩
  refine ⟨((htimes none hends _).1 hclassified).symm, ?_, ?_⟩
  · rw [(hother _).1 hclassified]
    exact hresult
  · exact ((hreads (by decide) (by decide) (by decide) _).1 hreturns).symm

end RonWorkbench.Formatter
