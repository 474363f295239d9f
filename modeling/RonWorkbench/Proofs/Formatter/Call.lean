import RonWorkbench.Formatter.Call
import RonWorkbench.Proofs.Files.Tree

/-!
# What a call of the formatter gives and leaves

A call is followed event by event, and two things are kept in view.

* Its files (`Call.Spares`): a call whose formatter changes nothing but its scratch copy and the
  backup of that leaves, once it has returned, the files that it found, but for a file that stood
  where the backup belongs: that is removed with the copy (`Host.loses_call`).
* Its result: while the formatter runs, what it prints is gathered up to its end
  (`Call.run_own`), so a call that gives an outcome has compared the document with what the
  formatter printed, decoded (`Host.result_eq_ok`). A call that the caller does not abandon returns
  (`Host.isSome_result`) and is not cancelled (`Host.result_ne_cancelled`).

What one event does to the files is said in one lemma for all events (`Call.Spares.step`).
-/

namespace RonWorkbench.Formatter

/-- Only an exit with the code zero is a success. -/
theorem ExitStatus.eq_of_isSuccess {status : ExitStatus} (h : status.isSuccess = true) :
    status = .code 0 := by
  unfold isSuccess at h
  split at h
  · rfl
  · simp at h

/-- The event is one of the formatter's own. -/
def Event.isOwn : Event → Bool
  | .prints _ | .complains _ | .changesFiles _ | .ends _ => true
  | .exchange | .deadline | .abandon => false

/-- A backup stands beside its file and not in its place. -/
theorem backupOf_ne (path : Path) : backupOf path ≠ path := by
  rcases List.eq_nil_or_concat path with rfl | ⟨above, name, rfl⟩
  · simp [backupOf]
  · intro h
    simp [backupOf] at h

namespace Call

variable {c : Call}

theorem run_cons (event : Event) (events : List Event) :
    c.run (event :: events) = (c.step event).run events :=
  rfl

theorem run_append (first second : List Event) :
    c.run (first ++ second) = (c.run first).run second :=
  List.foldl_append

/-- A call that has returned stays as it is. -/
theorem run_of_isSome (h : c.result.isSome) (events : List Event) : c.run events = c := by
  induction events with
  | nil => rfl
  | cons event more ih => rw [run_cons, step, if_pos h, ih]

/-- No event changes what was asked for and where the scratch copy is. -/
theorem step_request (event : Event) :
    (c.step event).text = c.text ∧ (c.step event).options = c.options ∧
      (c.step event).scratch = c.scratch := by
  unfold step
  split
  · exact ⟨rfl, rfl, rfl⟩
  · cases event with
    | exchange =>
      rw [move, look]
      split
      · exact ⟨rfl, rfl, rfl⟩
      · split <;> exact ⟨rfl, rfl, rfl⟩
    | deadline | abandon => exact ⟨rfl, rfl, rfl⟩
    | prints bytes | complains bytes | changesFiles files | ends status =>
      rw [move]
      · split <;> exact ⟨rfl, rfl, rfl⟩
      all_goals simp

/-- The document stays the one that was handed over. -/
theorem run_text (events : List Event) : (c.run events).text = c.text := by
  induction events generalizing c with
  | nil => rfl
  | cons event more ih => rw [run_cons, ih, (step_request event).1]

theorem run_scratch (events : List Event) : (c.run events).scratch = c.scratch := by
  induction events generalizing c with
  | nil => rfl
  | cons event more ih => rw [run_cons, ih, (step_request event).2.2]

/-! ### The files of a call -/

/-- What is no directory can be removed, and nothing else is. -/
theorem get?_removeFile (files : Files) (path other : Path)
    (h : files.get? path ≠ some .directory) :
    (removeFile files path).get? other = if other = path then none else files.get? other := by
  unfold removeFile
  split
  · exact Keyed.get?_erase files path other
  · next hfile =>
    split
    · next heq =>
      subst heq
      cases hget : files.get? other with
      | none => rfl
      | some entry =>
        cases entry with
        | file content => exact absurd hget (hfile content)
        | directory => exact absurd hget h
    · rfl

/-- A directory is not removed. -/
theorem removeFile_of_directory {files : Files} {path : Path}
    (h : files.get? path = some .directory) : removeFile files path = files := by
  rw [removeFile, h]

/-- Removing a file loses that file and no other. -/
theorem loses_removeFile (files : Files) (path : Path) :
    files.Loses (some path) (removeFile files path) := by
  intro other
  cases hget : files.get? path with
  | none =>
    rw [get?_removeFile files path other (by simp [hget])]
    split
    · next heq => exact .inl (heq ▸ hget.symm)
    · exact .inl rfl
  | some entry =>
    cases entry with
    | directory => exact .inl (by rw [removeFile_of_directory hget])
    | file content =>
      rw [get?_removeFile files path other (by simp [hget])]
      split
      · next heq =>
        subst heq
        exact .inr ⟨rfl, ⟨content, hget⟩, rfl⟩
      · exact .inl rfl

/--
The files of a call are those from before, except for the scratch copy and its backup, which are
directories only if they were; and once the call has returned, no more is gone than a file in the
place of the backup.
-/
structure Spares (before : Files) (c : Call) : Prop where
  outside : ∀ path, path ∉ sideFiles c.scratch → c.files.get? path = before.get? path
  directory_iff : ∀ path ∈ sideFiles c.scratch,
    c.files.get? path = some .directory ↔ before.get? path = some .directory
  returned : c.result.isSome → before.Loses (c.scratch.map backupOf) c.files

namespace Spares

variable {before : Files}

/-- Returning removes the scratch copy, where nothing was before, and its backup. -/
theorem finish (h : c.Spares before) (hfree : ∀ path ∈ c.scratch, before.get? path = none)
    (result : Except Fault Outcome) : (c.finish result).Spares before := by
  have hloses : before.Loses (c.scratch.map backupOf) (c.finish result).files := by
    obtain ⟨houtside, hdirectory, -⟩ := h
    rw [Call.finish]
    cases hscratch : c.scratch with
    | none => exact fun other ↦ .inl (houtside other (by simp [hscratch, sideFiles]))
    | some path =>
      rw [hscratch] at houtside hdirectory
      have hnone : before.get? path = none := hfree path hscratch
      have hbackup := loses_removeFile c.files (backupOf path)
      have hcopy : (removeFile c.files (backupOf path)).get? path ≠ some .directory := by
        rw [hbackup.get?_of_ne (by simpa using backupOf_ne path), Ne,
          hdirectory path (by simp [sideFiles]), hnone]
        simp
      intro other
      show (removeFile (removeFile c.files (backupOf path)) path).get? other = _ ∨ _
      rw [get?_removeFile _ path other hcopy]
      by_cases hother : other = path
      · exact .inl (by rw [if_pos hother, hother, hnone])
      rw [if_neg hother]
      by_cases hside : other = backupOf path
      · subst hside
        have hiff := hdirectory (backupOf path) (by simp [sideFiles])
        -- a directory stays where it is; a file is gone, whoever made it
        cases hbefore : before.get? (backupOf path) with
        | none =>
          rw [get?_removeFile _ _ _ (by simp [hiff, hbefore])]
          exact .inl (if_pos rfl)
        | some entry =>
          cases entry with
          | directory =>
            rw [removeFile_of_directory (hiff.2 hbefore)]
            exact .inl (hiff.2 hbefore)
          | file content =>
            rw [get?_removeFile _ _ _ (by simp [hiff, hbefore])]
            exact .inr ⟨rfl, ⟨content, rfl⟩, if_pos rfl⟩
      · rw [hbackup.get?_of_ne (by simpa using Ne.symm hside),
          houtside other (by simp [sideFiles, hother, hside])]
        exact .inl rfl
  refine ⟨fun path hpath ↦ ?_, fun path hpath ↦ ?_, fun _ ↦ hloses⟩
  · refine hloses.get?_of_ne fun hplace ↦ hpath ?_
    obtain ⟨copy, hcopy, rfl⟩ := Option.map_eq_some_iff.1 hplace
    show backupOf copy ∈ sideFiles c.scratch
    simp [hcopy, sideFiles]
  · rcases hloses path with heq | ⟨-, ⟨content, hcontent⟩, hnone⟩
    · rw [heq]
    · simp [hcontent, hnone]

/-- An event of a formatter that spares the other files leaves them spared. -/
theorem step (h : c.Spares before) (hfree : ∀ path ∈ c.scratch, before.get? path = none)
    {event : Event} (hevent : event.Spares before (sideFiles c.scratch)) :
    (c.step event).Spares before := by
  unfold Call.step
  split
  · exact h
  · next hresult =>
    -- An event that changes no files leaves what was spared.
    have hrunning {d : Call} (hfiles : d.files = c.files) (hscratch : d.scratch = c.scratch)
        (hd : d.result = c.result) : d.Spares before := by
      refine ⟨?_, ?_, fun hsome ↦ absurd (hd ▸ hsome) hresult⟩
      · rw [hfiles, hscratch]
        exact h.outside
      · rw [hfiles, hscratch]
        exact h.directory_iff
    cases event with
    | exchange =>
      rw [move, look]
      split
      · exact h.finish hfree _
      · split
        · exact h.finish hfree _
        · exact h
    | deadline | abandon => exact h.finish hfree _
    | prints bytes | complains bytes | ends status =>
      rw [move]
      · split
        · exact hrunning rfl rfl rfl
        · exact h
      all_goals simp
    | changesFiles after =>
      rw [move]
      · split
        · exact ⟨hevent.1, hevent.2, fun hsome ↦ absurd hsome hresult⟩
        · exact h
      all_goals simp

/-- **A whole run of such events leaves the other files spared.** -/
theorem run (h : c.Spares before) (hfree : ∀ path ∈ c.scratch, before.get? path = none)
    {events : List Event}
    (hevents : ∀ event ∈ events, event.Spares before (sideFiles c.scratch)) :
    (c.run events).Spares before := by
  induction events generalizing c with
  | nil => exact h
  | cons event more ih =>
    obtain ⟨-, -, hscratch⟩ := step_request (c := c) event
    rw [List.forall_mem_cons] at hevents
    rw [run_cons]
    refine ih (h.step hfree hevents.1) ?_ ?_
    · rwa [hscratch]
    · rw [hscratch]
      exact hevents.2

/-- A new call has changed nothing. -/
theorem new (options : Options) (text : List Char) : (Call.new before options text).Spares before :=
  ⟨fun _ _ ↦ rfl, by simp [Call.new, sideFiles], by simp [Call.new]⟩

end Spares

end Call

/-! ### Calls on a host -/

/-- The files that calls on a host set aside: the scratch copy and its backup. -/
def Host.sideFiles (host : Host) : List Path :=
  Formatter.sideFiles host.scratch.toOption

/-- Nothing is where a call makes its scratch copy, nor where the backup of that would be. -/
def Host.HasRoom (host : Host) (files : Files) : Prop :=
  ∀ path ∈ host.sideFiles, files.get? path = none

/--
The scratch copy is made in a directory that is there, at a place where nothing is. Something may be
where the backup of the copy would be. The directory has an entry of its own, as every directory of
a tree can have, so that it is still there when the copy is gone again.
-/
def Host.HasPlace (host : Host) (files : Files) : Prop :=
  ∀ path, host.scratch = .ok path →
    files.get? path = none ∧ files.get? path.dropLast = some .directory

/-- Where the backup of the scratch copy would be, for calls that make one. -/
def Host.backup? (host : Host) : Mode → Option Path
  | .stdin => none
  | .tempFile => host.scratch.toOption.map backupOf

/-- There is a backup in temp-file mode only, beside the copy. -/
theorem Host.backup?_eq_some_iff {host : Host} {mode : Mode} {place : Path} :
    host.backup? mode = some place ↔
      mode = .tempFile ∧ ∃ path, host.scratch = .ok path ∧ backupOf path = place := by
  cases mode with
  | stdin => simp [backup?]
  | tempFile =>
    simp [backup?, Option.map_eq_some_iff, Fallible.toOption_eq_some]

/-- The backup would be in the directory of the copy. -/
theorem Host.HasPlace.directory {host : Host} {files : Files} (h : host.HasPlace files)
    {mode : Mode} : ∀ place ∈ host.backup? mode, files.get? place.dropLast = some .directory := by
  intro place hplace
  obtain ⟨-, path, hpath, rfl⟩ := Host.backup?_eq_some_iff.1 hplace
  rw [backupOf, List.dropLast_concat]
  exact (h path hpath).2

namespace Call

/-- The document is where the formatter looks for it: on its input or in its scratch copy. -/
def IsHanded (host : Host) (c : Call) : Prop :=
  match c.options.mode with
  | .stdin => c.scratch = none
  | .tempFile => ∃ path, host.scratch = .ok path ∧ c.scratch = some path ∧
      c.files.get? path = some (.file (Text.encode c.text))

/-- Nothing is printed, and no files are changed but those that the host sets aside. -/
structure IsPrepared (host : Host) (options : Options) (text : List Char) (files : Files)
    (c : Call) : Prop where
  text_eq : c.text = text
  options_eq : c.options = options
  stdout_eq : c.stdout = []
  spares : c.Spares files
  scratch_eq : ∀ path ∈ c.scratch, options.mode = .tempFile ∧ host.scratch = .ok path

/-- A call as it begins: the formatter is running and is given the document, or the call failed. -/
structure IsBegun (host : Host) (options : Options) (text : List Char) (files : Files)
    (c : Call) : Prop extends IsPrepared host options text files c where
  running_or_failed : (c.result = none ∧ c.process = some .running ∧ c.IsHanded host) ∨
    c.process ≠ some .running ∧ ∃ fault, fault ≠ .cancelled ∧ c.result = some (.error fault)

section Begin

variable {c : Call} {host : Host} {options : Options} {text : List Char} {files : Files}

/-- The scratch copy is made where nothing was. -/
theorem IsPrepared.free (h : c.IsPrepared host options text files) (hplace : host.HasPlace files) :
    ∀ path ∈ c.scratch, files.get? path = none :=
  fun path hpath ↦ (hplace path (h.scratch_eq path hpath).2).1

/-- A call that fails before its formatter is started has begun as a failure. -/
theorem IsPrepared.finish (h : c.IsPrepared host options text files)
    (hplace : host.HasPlace files) {fault : Fault} (hfault : fault ≠ .cancelled) :
    (c.finish (.error fault)).IsBegun host options text files where
  text_eq := h.text_eq
  options_eq := h.options_eq
  stdout_eq := h.stdout_eq
  spares := h.spares.finish (h.free hplace) _
  scratch_eq := h.scratch_eq
  running_or_failed := .inr ⟨by simp [Call.finish], fault, hfault, rfl⟩

/-- A call whose program is started has begun, and one whose program is refused has failed. -/
theorem IsPrepared.launch (h : c.IsPrepared host options text files)
    (hplace : host.HasPlace files) (hresult : c.result = none)
    (hhanded : c.IsHanded host) (program : String) (file : Option String) :
    (c.launch host program file).IsBegun host options text files := by
  unfold Call.launch
  dsimp only
  split
  · exact h.finish hplace (by simp)
  · exact {
      text_eq := h.text_eq
      options_eq := h.options_eq
      stdout_eq := h.stdout_eq
      spares := ⟨h.spares.outside, h.spares.directory_iff, h.spares.returned⟩
      scratch_eq := h.scratch_eq
      running_or_failed := .inl ⟨hresult, rfl, hhanded⟩ }

/-- A new call is prepared, for it has done nothing. -/
theorem isPrepared_new : (new files options text).IsPrepared host options text files where
  text_eq := rfl
  options_eq := rfl
  stdout_eq := rfl
  spares := .new options text
  scratch_eq := by simp [new]

/-- With the scratch copy made, nothing else is changed. -/
theorem isPrepared_copy (hplace : host.HasPlace files) (hmode : options.mode = .tempFile)
    {path : Path} (hscratch : host.scratch = .ok path) (content : List UInt8) :
    IsPrepared host options text files
      { new files options text with
        files := files.set path (.file content), scratch := some path } where
  text_eq := rfl
  options_eq := rfl
  stdout_eq := rfl
  spares := by
    refine ⟨fun other hother ↦ ?_, fun other hother ↦ ?_, by simp [new]⟩
    · rw [Keyed.get?_set, if_neg]
      rintro rfl
      exact hother (by simp [sideFiles])
    · rw [Keyed.get?_set]
      split
      · next heq => simp [heq, (hplace path hscratch).1]
      · rfl
  scratch_eq := by simp [hmode, hscratch]

/-- **A call begins in order.** -/
theorem isBegun_start (hplace : host.HasPlace files) :
    (start host files options text).IsBegun host options text files := by
  unfold start
  dsimp only
  split
  · exact isPrepared_new.finish hplace (by simp)
  · split
    · next hmode => exact isPrepared_new.launch hplace rfl (by simp [IsHanded, new, hmode]) _ _
    · next hmode =>
      split
      · exact isPrepared_new.finish hplace (by simp)
      · next path hscratch =>
        refine (isPrepared_copy hplace hmode hscratch _).launch hplace rfl ?_ _ _
        simp [IsHanded, new, hmode, hscratch, Keyed.get?_set]

end Begin

/-! ### What a formatter prints -/

variable {c : Call} {events : List Event}

/-- What is printed up to the end of the formatter. -/
def printed : List Event → List UInt8
  | [] => []
  | .prints bytes :: more => bytes ++ printed more
  | .ends _ :: _ => []
  | _ :: more => printed more

/-- How the formatter ends, if it does. -/
def ending? : List Event → Option ExitStatus
  | [] => none
  | .ends status :: _ => some status
  | _ :: more => ending? more

/-- Nothing is printed behind the end, and there is one end. -/
theorem printed_append {first : List Event} (h : (ending? first).isSome) (second : List Event) :
    printed (first ++ second) = printed first ∧ ending? (first ++ second) = ending? first := by
  induction first with
  | nil => simp [ending?] at h
  | cons event more ih => cases event <;> simp_all [printed, ending?]

/-- A formatter that has ended does nothing more. -/
theorem run_of_ended (hresult : c.result = none) {status : ExitStatus}
    (hprocess : c.process = some (.ended status)) (hown : ∀ event ∈ events, event.isOwn = true) :
    c.run events = c := by
  induction events with
  | nil => rfl
  | cons event more ih =>
    rw [List.forall_mem_cons] at hown
    have hstep : c.step event = c := by
      cases event <;> simp_all [Event.isOwn, step, move]
    rw [run_cons, hstep, ih hown.2]

/-- A running formatter acts. -/
theorem step_of_isOwn (hresult : c.result = none) (hprocess : c.process = some .running)
    {event : Event} (hown : event.isOwn = true) : c.step event = c.act event := by
  cases event <;> simp_all [Event.isOwn, step, move]

/-- **While the formatter runs, what it prints is gathered, up to its end.** -/
theorem run_own (hresult : c.result = none) (hprocess : c.process = some .running)
    (hown : ∀ event ∈ events, event.isOwn = true) :
    (c.run events).result = none ∧
      (c.run events).process = some ((ending? events).elim .running .ended) ∧
      (c.run events).stdout = c.stdout ++ printed events := by
  induction events generalizing c with
  | nil => exact ⟨hresult, hprocess, (List.append_nil _).symm⟩
  | cons event more ih =>
    rw [List.forall_mem_cons] at hown
    rw [run_cons, step_of_isOwn hresult hprocess hown.1]
    cases event with
    | prints bytes =>
      rw [printed, ← List.append_assoc]
      exact ih hresult hprocess hown.2
    | complains bytes | changesFiles files => exact ih hresult hprocess hown.2
    | ends status =>
      -- what comes behind the end is not gathered, for a process that has ended does nothing
      have hended : (c.act (.ends status)).process = some (.ended status) := rfl
      rw [run_of_ended (show (c.act (.ends status)).result = none from hresult) hended hown.2]
      exact ⟨hresult, hended, (List.append_nil _).symm⟩
    | exchange | deadline | abandon => simp [Event.isOwn] at hown

/-! ### How a call ends -/

/-- An outcome is what comes of a formatter that ended well and printed a text. -/
theorem verdict_eq_ok {status : ExitStatus} {outcome : Outcome}
    (h : c.verdict status = .ok outcome) :
    status = .code 0 ∧
      ∃ output, Text.decode? c.stdout = some output ∧ outcome = .ofOutput c.text output := by
  unfold verdict at h
  split at h
  · simp at h
  · split at h
    · simp at h
    · next hsuccess =>
      refine ⟨ExitStatus.eq_of_isSuccess (by simpa using hsuccess), ?_⟩
      split at h
      · simp at h
      · next output houtput => exact ⟨output, houtput, (Except.ok.inj h).symm⟩

/-- No verdict on a formatter says that its caller gave up. -/
theorem verdict_ne_cancelled {status : ExitStatus} : c.verdict status ≠ .error .cancelled := by
  unfold verdict
  split
  · simp
  · split
    · simp
    · split <;> simp

/-- Looked at and then out of time, a call has returned. -/
theorem run_exchange_deadline (hresult : c.result = none) :
    (∃ status, c.process = some (.ended status) ∧
      c.run [.exchange, .deadline] = c.finish (c.verdict status)) ∨
    ∃ fault, fault ≠ .cancelled ∧ c.run [.exchange, .deadline] = c.finish (.error fault) := by
  have hlast {d : Call} (h : d.result.isSome) : d.step .deadline = d := by
    rw [step, if_pos h]
  have hlook : c.run [.exchange, .deadline] = c.look.step .deadline := by
    simp [step, hresult, move, run]
  rw [hlook, look]
  split
  · next status hprocess => exact .inl ⟨status, hprocess, hlast rfl⟩
  · split
    · exact .inr ⟨_, by simp, hlast rfl⟩
    · refine .inr ⟨.timedOut c.options.timeout, by simp, ?_⟩
      simp [step, hresult, move]

end Call

/-! ### Calls on a host -/

namespace Host

/-- The input of a formatter: the document if it is to be read from there. -/
def input? (options : Options) (text : List Char) : Option (List UInt8) :=
  if options.mode = .stdin then some (Text.encode text) else none

/-- What the formatter of a call does. -/
def acts (host : Host) (options : Options) (text : List Char) (files : Files) :
    List (Nat × Event) :=
  let c := Call.start host files options text
  if c.process = some .running then
    host.behaviour ((host.locate? options.program).getD "")
      (options.arguments (c.scratch.map renderPath)) (input? options text) c.files
  else
    []

/-- What the formatter of a call does in time. -/
def timely (host : Host) (options : Options) (text : List Char) (files : Files) : List Event :=
  ((host.acts options text files).takeWhile fun act ↦
    decide (act.1 + startupTime ≤ options.timeout)).map Prod.snd

/-- A call that the caller does not abandon, as it is in the end. -/
def call (host : Host) (options : Options) (text : List Char) (files : Files) : Call :=
  (Call.start host files options text).run
    (host.timely options text files ++ [.exchange, .deadline])

/-- Formatting is a call with the events of its host. -/
theorem format_eq (host : Host) (options : Options) (text : List Char) (files : Files) :
    format host options text none files =
      ((host.call options text files).result.getD (.error (.timedOut options.timeout)),
        (host.call options text files).files) :=
  rfl

/-- What the formatter of a call does, in time or not. -/
def events (host : Host) (options : Options) (text : List Char) (files : Files) : List Event :=
  (host.acts options text files).map Prod.snd

/-- What the formatter of a call prints. -/
def printed (host : Host) (options : Options) (text : List Char) (files : Files) : List UInt8 :=
  Call.printed (host.events options text files)

/--
The formatter of a call prints, changes files and ends. The files that it changes are its scratch
copy and the backup of that, and none if it has no scratch copy.
-/
structure IsTidy (host : Host) (options : Options) (text : List Char) (files : Files) : Prop where
  own : ∀ act ∈ host.acts options text files, act.2.isOwn = true
  spares : ∀ act ∈ host.acts options text files,
    act.2.Spares files (Formatter.sideFiles (Call.start host files options text).scratch)

variable {host : Host} {options : Options} {text : List Char} {files : Files}

/-- What a formatter does in time is a beginning of what it does. -/
theorem timely_isPrefix :
    host.timely options text files <+: host.events options text files :=
  (List.takeWhile_prefix _).map Prod.snd

section Tidy

variable (htidy : host.IsTidy options text files) (hplace : host.HasPlace files)

include htidy

/-- What a formatter does in time it does itself. -/
theorem isOwn_of_mem_timely {event : Event} (h : event ∈ host.timely options text files) :
    event.isOwn = true := by
  obtain ⟨act, hact, rfl⟩ := List.mem_map.1 (timely_isPrefix.subset h)
  exact htidy.own act hact

/-- What a formatter does in time changes no files but those set aside for it. -/
theorem spares_of_mem_timely {event : Event} (h : event ∈ host.timely options text files) :
    event.Spares files (Formatter.sideFiles (Call.start host files options text).scratch) := by
  obtain ⟨act, hact, rfl⟩ := List.mem_map.1 (timely_isPrefix.subset h)
  exact htidy.spares act hact

include hplace

/--
A call ends in one of two ways: with the verdict on a formatter that was handed the document and
has ended, or with a fault that is no cancellation.
-/
theorem ended_or_failed :
    ((Call.start host files options text).process = some .running ∧
      (Call.start host files options text).IsHanded host ∧
      (host.call options text files).stdout = host.printed options text files ∧
      ∃ status, Call.ending? (host.events options text files) = some status ∧
        (host.call options text files).result =
          some ((host.call options text files).verdict status)) ∨
    ∃ fault, fault ≠ .cancelled ∧
      (host.call options text files).result = some (.error fault) := by
  have hbegun : (Call.start host files options text).IsBegun host options text files :=
    Call.isBegun_start hplace
  rcases hbegun.running_or_failed with ⟨hresult, hprocess, hhanded⟩ | ⟨-, fault, hfault, hresult⟩
  · have hown : ∀ event ∈ host.timely options text files, event.isOwn = true :=
      fun _ ↦ isOwn_of_mem_timely htidy
    obtain ⟨hresult', hprocess', hstdout⟩ := Call.run_own hresult hprocess hown
    rw [call, Call.run_append]
    rcases Call.run_exchange_deadline hresult' with ⟨status, hstatus, hcall⟩ | ⟨fault, hne, hcall⟩
    · have hended : Call.ending? (host.timely options text files) = some status := by
        cases hending : Call.ending? (host.timely options text files) with
        | none => simp [hprocess', hending] at hstatus
        | some status => simpa [hprocess', hending] using hstatus
      -- what the formatter would do after its time is behind its end
      obtain ⟨late, hlate⟩ : host.timely options text files <+: host.events options text files :=
        timely_isPrefix
      have hsome : (Call.ending? (host.timely options text files)).isSome := by simp [hended]
      obtain ⟨hprinted, hending⟩ := Call.printed_append hsome late
      rw [hlate] at hprinted hending
      refine .inl ⟨hprocess, hhanded, ?_, status, hending.trans hended, by rw [hcall]; rfl⟩
      rw [hcall, printed, hprinted]
      exact hstdout.trans (by rw [hbegun.stdout_eq, List.nil_append])
    · exact .inr ⟨fault, hne, by rw [hcall]; rfl⟩
  · have hreturned : (Call.start host files options text).result.isSome := by simp [hresult]
    refine .inr ⟨fault, hfault, ?_⟩
    rwa [call, Call.run_of_isSome hreturned]

/-- **A call returns.** -/
theorem isSome_result : (host.call options text files).result.isSome := by
  rcases ended_or_failed htidy hplace with
    ⟨-, -, -, status, -, hresult⟩ | ⟨fault, -, hresult⟩ <;> rw [hresult] <;> rfl

/-- Nobody cancels a call that its caller does not abandon. -/
theorem result_ne_cancelled :
    (host.call options text files).result ≠ some (.error .cancelled) := by
  rcases ended_or_failed htidy hplace with
    ⟨-, -, -, status, -, hresult⟩ | ⟨fault, hfault, hresult⟩
  · rw [hresult, ne_eq, Option.some.injEq]
    exact Call.verdict_ne_cancelled
  · simpa [hresult] using hfault

/--
**A call that gives an outcome compares the document with what its formatter printed**, which ran,
was handed the document and ended well.
-/
theorem result_eq_ok {outcome : Outcome}
    (h : (host.call options text files).result = some (.ok outcome)) :
    (Call.start host files options text).process = some .running ∧
      (Call.start host files options text).IsHanded host ∧
      Call.ending? (host.events options text files) = some (.code 0) ∧
      ∃ output, Text.decode? (host.printed options text files) = some output ∧
        outcome = .ofOutput text output := by
  have hbegun : (Call.start host files options text).IsBegun host options text files :=
    Call.isBegun_start hplace
  rcases ended_or_failed htidy hplace with
    ⟨hprocess, hhanded, hstdout, status, hending, hresult⟩ | ⟨fault, -, hresult⟩
  · have hverdict : (host.call options text files).verdict status = .ok outcome := by
      rwa [hresult, Option.some.injEq] at h
    obtain ⟨rfl, output, houtput, houtcome⟩ := Call.verdict_eq_ok hverdict
    rw [hstdout] at houtput
    rw [call, Call.run_text, hbegun.text_eq] at houtcome
    exact ⟨hprocess, hhanded, hending, output, houtput, houtcome⟩
  · simp [hresult] at h

/-- **A call leaves the files as it found them**, but for a file where the backup would be. -/
theorem loses_call :
    files.Loses (host.backup? options.mode) (host.call options text files).files := by
  have hbegun : (Call.start host files options text).IsBegun host options text files :=
    Call.isBegun_start hplace
  have hspares : (host.call options text files).Spares files := by
    refine hbegun.spares.run (hbegun.free hplace) fun event hevent ↦ ?_
    rcases List.mem_append.1 hevent with hevent | hevent
    · exact spares_of_mem_timely htidy hevent
    · rw [List.mem_cons, List.mem_singleton] at hevent
      rcases hevent with rfl | rfl <;> trivial
  intro path
  refine (hspares.returned (isSome_result htidy hplace) path).imp_right ?_
  rintro ⟨hcopy, hlost⟩
  obtain ⟨copy, hscratch, rfl⟩ := Option.map_eq_some_iff.1 hcopy
  rw [call, Call.run_scratch] at hscratch
  obtain ⟨hmode, hhost⟩ := hbegun.scratch_eq copy hscratch
  exact ⟨Host.backup?_eq_some_iff.2 ⟨hmode, copy, hhost, rfl⟩, hlost⟩

end Tidy

end Host

end RonWorkbench.Formatter
