import RonWorkbench.CommandLine.Run
import RonWorkbench.Proofs.Formatter.Function

/-!
# What formatting a file leaves behind

A line that asks for a file to be formatted goes through four stages: the settings are loaded, the
file is read, the formatter is called, and what it made of the file is delivered. The first three
change no files, except that a call removes a file in the place of the backup of its scratch copy;
so what a run changes it changes by delivering (`runFormat_of_formats`,
`runFormat_of_not_formats`), and that is the file asked for and no other, with what the formatter
printed (`run_format_changes_only_source`).

Delivering can fail as well (`ofDelivery_deliver`). The disk may refuse to open the file, which stays
as it is; or it may give up in the middle, which leaves a beginning of what was to be written.
-/

namespace RonWorkbench

/-- The formatters of a host, which nobody interrupts. -/
def Formatter.Host.reformat (host : Formatter.Host) : CommandLine.Reformat :=
  fun options text files ↦ Formatter.format host options text none files

namespace CommandLine

open Fallible Formatter

/-- The text of a file is the one that it holds the encoding of. -/
theorem readSource_eq_ok_iff {files : Files} {here : Path} {path : String} {text : List Char} :
    readSource files here path = .ok text ↔ files.read here path = .ok (Text.encode text) := by
  unfold readSource
  split
  · next fault hread => simp [hread]
  · next bytes hread =>
    rw [hread, Except.ok.injEq, eq_comm (a := bytes), ← Text.decode?_eq_some_iff]
    cases Text.decode? bytes <;> simp

/-- What a request hands to the formatter: options, from settings that load, and a file's text. -/
def FormatRequest.Asks (request : FormatRequest) (order : Settings.Order) (files : Files)
    (here : Path) (options : Formatter.Options) (text : List Char) : Prop :=
  ∃ configuration,
    Settings.loadForCommand files here request.config request.flags order = .ok configuration ∧
      readSource files here request.path = .ok text ∧
        options = configuration.formatter.toOptions none

/-- The settings load, the file is read, and the formatter succeeds and prints a text. -/
def FormatRequest.Formats (request : FormatRequest) (host : Host) (order : Settings.Order)
    (files : Files) (here : Path) (text output : List Char) : Prop :=
  ∃ options outcome, request.Asks order files here options text ∧
    (host.call options text files).result = some (.ok outcome) ∧
      host.printed options text files = Text.encode output

/-- The text that is asked for is in the file that the path leads to. -/
theorem FormatRequest.Asks.exists_source {request : FormatRequest} {order : Settings.Order}
    {files : Files} {here : Path} {options : Formatter.Options} {text : List Char}
    (h : request.Asks order files here options text) :
    ∃ path, files.resolve here request.path = .ok path ∧
      files.get? path = some (.file (Text.encode text)) := by
  obtain ⟨-, -, hread, -⟩ := h
  exact Files.read_eq_ok_iff.1 (readSource_eq_ok_iff.1 hread)

/--
The files as the first three stages leave them: as they were, but that a call of the formatter has
removed a file in the place of its backup.
-/
def FormatRequest.Leaves (request : FormatRequest) (host : Host) (order : Settings.Order)
    (files : Files) (here : Path) (after : Files) : Prop :=
  ∃ place?, files.Loses place? after ∧
    ∀ place ∈ place?, ∃ options text, request.Asks order files here options text ∧
      host.backup? options.mode = some place

/-! ### Delivery -/

/-- The result is delivered: the file is as it is checked to be, and is written if it has to be. -/
def FormatRequest.Delivers (request : FormatRequest) (disk : Disk) (files : Files) (here : Path)
    (text output : List Char) : Prop :=
  (request.delivery = .check → output = text) ∧
    (request.delivery = .rewrite → output ≠ text →
      (files.write disk here request.path (Text.encode output)).1 = .ok ())

/--
A run has written a content to a path: all of it, or as much as got through before the disk gave up,
and then the run has failed.
-/
inductive Report.Wrote (report : Report) (disk : Disk) (path : Path) (content : List UInt8) : Prop
  | whole (hcode : report.code = 0) (hget : report.files.get? path = some (.file content))
  | part {fault : PathFault} {length : Nat}
      (hdisk : disk path content = some (.cutShort fault length))
      (hcode : report.code = failureCode)
      (hget : report.files.get? path = some (.file (content.take length)))

section Deliver

variable {disk : Disk} {files after : Files} {here : Path} {request : FormatRequest}
  {text output : List Char}

theorem deliver_print (h : request.delivery = .print) :
    deliver disk here request text (.ofOutput text output) after = .success after output := by
  simp only [deliver, h, Outcome.text_ofOutput]

theorem deliver_check (h : request.delivery = .check) :
    deliver disk here request text (.ofOutput text output) after =
      if output = text then .success after []
      else .failure after failureCode s!"{request.path} is not formatted" := by
  simp only [deliver, h, Outcome.ofOutput]
  by_cases heq : output = text <;> simp [heq, Outcome.isChanged]

theorem deliver_rewrite_of_eq (h : request.delivery = .rewrite) (heq : output = text) :
    deliver disk here request text (.ofOutput text output) after = .success after [] := by
  simp only [deliver, h, Outcome.ofOutput, if_pos heq]

/-- A file that has to be rewritten is written, or the run says why it is not. -/
theorem deliver_rewrite_of_ne (h : request.delivery = .rewrite) (hne : output ≠ text) :
    deliver disk here request text (.ofOutput text output) after =
      match after.write disk here request.path (Text.encode output) with
      | (.ok (), written) => .success written []
      | (.error fault, written) =>
        .failure written failureCode s!"Cannot write {request.path}: {fault.describe}" := by
  cases hwrite : after.write disk here request.path (Text.encode output) with
  | mk result written =>
    cases result <;> simp only [deliver, h, Outcome.ofOutput, if_neg hne, hwrite]

/-- Whether a write succeeds is told by the tree it is made in and by the disk. -/
theorem fst_write_eq_ok_iff {written : String} {content : List UInt8} :
    (files.write disk here written content).1 = .ok () ↔
      ∃ path, files.target here written = .ok path ∧ disk path content = none := by
  cases htarget : files.target here written with
  | error fault => simp [Files.write, htarget]
  | ok path =>
    rw [Files.write_of_target htarget]
    rcases hdisk : disk path content with _ | fault | ⟨fault, length⟩ <;> simp [hdisk]

/--
What a delivery comes to, for the files that the call of the formatter left. It succeeds if the
result is delivered and fails if not. All files are kept, but for the file asked for, if that is to
be rewritten and the formatter printed something else than it held; if the delivery succeeds, the
file then holds what was printed.
-/
structure Report.OfDelivery (report : Report) (disk : Disk) (request : FormatRequest)
    (files after : Files) (here : Path) (text output : List Char) : Prop where
  code : report.code = 0 ∧ request.Delivers disk files here text output ∨
    report.code = failureCode ∧ ¬ request.Delivers disk files here text output
  keeps : ∀ path, report.files.get? path = after.get? path ∨
    files.resolve here request.path = .ok path ∧ request.delivery = .rewrite ∧
      output ≠ text ∧ report.Wrote disk path (Text.encode output)
  writes : request.delivery = .rewrite → report.code = 0 → output ≠ text →
    ∃ path, files.resolve here request.path = .ok path ∧
      report.files.get? path = some (.file (Text.encode output))

/-- A delivery succeeds without a write if there is nothing to be written. -/
theorem ofDelivery_success (h : request.Delivers disk files here text output)
    (hkept : request.delivery = .rewrite → output = text) (shown : List Char) :
    (Report.success after shown).OfDelivery disk request files after here text output where
  code := .inl ⟨rfl, h⟩
  keeps _ := .inl rfl
  writes hrewrite _ hne := absurd (hkept hrewrite) hne

/-- A delivery that fails before it writes keeps all files. -/
theorem ofDelivery_failure (h : ¬ request.Delivers disk files here text output) (line : String) :
    (Report.failure after failureCode line).OfDelivery disk request files after here text
      output where
  code := .inr ⟨rfl, h⟩
  keeps _ := .inl rfl
  writes _ hcode := by simp [Report.failure, failureCode] at hcode

/-- A file that has to be rewritten is delivered if it can be written as the call left it. -/
theorem delivers_iff_of_ne {place? : Option Path} (hloses : files.Loses place? after)
    (habove : ∀ place ∈ place?, files.get? place.dropLast = some .directory)
    (h : request.delivery = .rewrite) (hne : output ≠ text) :
    request.Delivers disk files here text output ↔
      ∃ path, after.target here request.path = .ok path ∧
        disk path (Text.encode output) = none := by
  simp only [FormatRequest.Delivers, h, fst_write_eq_ok_iff, hloses.target_eq_ok_iff habove]
  exact ⟨fun hdelivers ↦ hdelivers.2 trivial hne, fun hwrites ↦ ⟨by simp, fun _ _ ↦ hwrites⟩⟩

/-- **A rewritten file** is written as a whole, or in part, or not at all, as the disk has it. -/
theorem ofDelivery_rewrite {place? : Option Path} (hloses : files.Loses place? after)
    (habove : ∀ place ∈ place?, files.get? place.dropLast = some .directory)
    (h : request.delivery = .rewrite) (hne : output ≠ text) :
    (deliver disk here request text (.ofOutput text output) after).OfDelivery disk request files
      after here text output := by
  have hdelivers : request.Delivers disk files here text output ↔ _ :=
    delivers_iff_of_ne hloses habove h hne
  rw [deliver_rewrite_of_ne h hne]
  cases htarget : after.target here request.path with
  | error fault =>
    rw [Files.write, htarget]
    exact ofDelivery_failure (by simp [hdelivers, htarget]) _
  | ok path =>
    obtain ⟨hresolve, -, -⟩ := Files.target_eq_ok_iff.1 htarget
    rw [hloses.resolve_eq_ok_iff habove] at hresolve
    have hget := Files.get?_of_write htarget disk (Text.encode output)
    rw [Files.write_of_target htarget] at hget ⊢
    -- A write that was begun has opened the file, so it leaves all of the content or a part of it.
    rcases hdisk : disk path (Text.encode output) with _ | fault | ⟨fault, length⟩
    · simp only [hdisk] at hget ⊢
      have hheld := (hget path).trans (if_pos rfl)
      refine ⟨.inl ⟨rfl, hdelivers.2 ⟨path, htarget, hdisk⟩⟩, fun other ↦ ?_,
        fun _ _ _ ↦ ⟨path, hresolve, hheld⟩⟩
      by_cases hother : other = path
      · subst hother
        exact .inr ⟨hresolve, h, hne, .whole rfl hheld⟩
      · exact .inl ((hget other).trans (if_neg hother))
    · exact ofDelivery_failure (by simp [hdelivers, htarget, hdisk]) _
    · simp only [hdisk] at hget ⊢
      refine ⟨.inr ⟨rfl, by simp [hdelivers, htarget, hdisk]⟩, fun other ↦ ?_,
        by simp [Report.failure, failureCode]⟩
      by_cases hother : other = path
      · subst hother
        exact .inr ⟨hresolve, h, hne, .part hdisk rfl ((hget other).trans (if_pos rfl))⟩
      · exact .inl ((hget other).trans (if_neg hother))

/-- **What delivering does**, whichever way a result is delivered. -/
theorem ofDelivery_deliver {host : Host} {order : Settings.Order}
    (hafter : request.Leaves host order files here after) (hplace : host.HasPlace files)
    (disk : Disk) (text output : List Char) :
    (deliver disk here request text (.ofOutput text output) after).OfDelivery disk request files
      after here text output := by
  cases hdelivery : request.delivery with
  | print =>
    rw [deliver_print hdelivery]
    exact ofDelivery_success (by simp [FormatRequest.Delivers, hdelivery]) (by simp [hdelivery]) _
  | check =>
    rw [deliver_check hdelivery]
    split
    · next heq =>
      exact ofDelivery_success (by simp [FormatRequest.Delivers, hdelivery, heq]) (fun _ ↦ heq) _
    · next hne => exact ofDelivery_failure (fun hdelivers ↦ hne (hdelivers.1 hdelivery)) _
  | rewrite =>
    by_cases heq : output = text
    · rw [deliver_rewrite_of_eq hdelivery heq]
      exact ofDelivery_success (by simp [FormatRequest.Delivers, hdelivery, heq]) (fun _ ↦ heq) _
    · -- What the call removed is no directory, so the path leads where it led before.
      obtain ⟨place?, hloses, hlost⟩ := hafter
      refine ofDelivery_rewrite hloses (fun place hmem ↦ ?_) hdelivery heq
      obtain ⟨options, -, -, hbackup⟩ := hlost place hmem
      exact hplace.directory place hbackup

end Deliver

/-! ### Runs -/

section Run

variable {host : Host} {conditions : Conditions} {files : Files} {here : Path}
  {request : FormatRequest} {words : List String} {options : Formatter.Options}
  {text output : List Char}

/-- A line that asks for a file to be formatted has it formatted. -/
theorem run_of_read (hread : read words = .ok (.format request)) :
    run host.reformat files here words conditions =
      runFormat host.reformat conditions files here request := by
  simp only [run, hread, Invocation.run]

/-- An outcome of the formatter is delivered. -/
theorem runFormat_of_result_ok (hasks : request.Asks conditions.order files here options text)
    {outcome : Outcome} (hresult : (host.call options text files).result = some (.ok outcome)) :
    runFormat host.reformat conditions files here request =
      deliver conditions.disk here request text outcome (host.call options text files).files := by
  obtain ⟨configuration, hload, hread, rfl⟩ := hasks
  simp only [runFormat, hload, hread, Host.reformat, Host.format_eq, mapError_ok, bind,
    Except.bind, pure, Except.pure, hresult, Option.getD_some]

/-- A fault of the formatter fails the run. -/
theorem runFormat_of_result_error (hasks : request.Asks conditions.order files here options text)
    {fault : Fault} (hfault : fault ≠ .cancelled)
    (hresult : (host.call options text files).result = some (.error fault)) :
    runFormat host.reformat conditions files here request =
      .failure (host.call options text files).files failureCode fault.shown := by
  obtain ⟨configuration, hload, hread, rfl⟩ := hasks
  simp only [runFormat, hload, hread, Host.reformat, Host.format_eq, mapError_ok, bind,
    Except.bind, pure, Except.pure, hresult, Option.getD_some]

/-- What is left is what was found, if nothing was called. -/
theorem FormatRequest.Leaves.refl (request : FormatRequest) (host : Host) (order : Settings.Order)
    (files : Files) (here : Path) : request.Leaves host order files here files :=
  ⟨none, (Files.Same.refl files).loses none, by simp⟩

variable
  (htidy : ∀ options text, request.Asks conditions.order files here options text →
    host.IsTidy options text files)
  (hplace : host.HasPlace files)

include htidy hplace

/-- A call leaves what the stages up to it leave. -/
theorem leaves_call (hasks : request.Asks conditions.order files here options text) :
    request.Leaves host conditions.order files here (host.call options text files).files :=
  ⟨host.backup? options.mode, Host.loses_call (htidy _ _ hasks) hplace,
    fun _ hmem ↦ ⟨options, text, hasks, hmem⟩⟩

/-- What a formatter printed is delivered. -/
theorem runFormat_of_formats (h : request.Formats host conditions.order files here text output) :
    ∃ after : Files, request.Leaves host conditions.order files here after ∧
      runFormat host.reformat conditions files here request =
        deliver conditions.disk here request text (.ofOutput text output) after := by
  obtain ⟨options, outcome, hasks, hresult, hprinted⟩ := h
  obtain ⟨-, -, -, output', houtput, rfl⟩ := Host.result_eq_ok (htidy _ _ hasks) hplace hresult
  obtain rfl : output' = output := by
    rw [hprinted, Text.decode?_encode] at houtput
    exact (Option.some.inj houtput).symm
  exact ⟨_, leaves_call htidy hplace hasks, runFormat_of_result_ok hasks hresult⟩

/-- If nothing is formatted, the run fails and prints nothing. -/
theorem runFormat_of_not_formats
    (h : ∀ text output, ¬ request.Formats host conditions.order files here text output) :
    ∃ (after : Files) (line : String), request.Leaves host conditions.order files here after ∧
      runFormat host.reformat conditions files here request = .failure after failureCode line := by
  cases hload : Settings.loadForCommand files here request.config request.flags
      conditions.order with
  | error fault => exact ⟨files, fault.shown, .refl .., by rw [runFormat, hload]; rfl⟩
  | ok configuration =>
    cases hread : readSource files here request.path with
    | error line => exact ⟨files, line, .refl .., by rw [runFormat, hload, hread]; rfl⟩
    | ok text =>
      have hasks : request.Asks conditions.order files here
          (configuration.formatter.toOptions none) text :=
        ⟨configuration, hload, hread, rfl⟩
      obtain ⟨result, hresult⟩ := Option.isSome_iff_exists.1
        (Host.isSome_result (htidy _ _ hasks) hplace)
      -- A call that succeeds has printed a text, so it would have formatted.
      cases result with
      | ok outcome =>
        obtain ⟨-, -, -, output, houtput, -⟩ := Host.result_eq_ok (htidy _ _ hasks) hplace hresult
        exact absurd ⟨_, outcome, hasks, hresult, (Text.decode?_eq_some_iff.1 houtput).symm⟩
          (h text output)
      | error fault =>
        have hfault : fault ≠ .cancelled := by
          rintro rfl
          exact Host.result_ne_cancelled (htidy _ _ hasks) hplace hresult
        exact ⟨_, fault.shown, leaves_call htidy hplace hasks,
          runFormat_of_result_error hasks hfault hresult⟩

/-- A run delivers what was printed, or fails. -/
theorem runFormat_cases :
    (∃ text output, request.Formats host conditions.order files here text output ∧
      ∃ after : Files, request.Leaves host conditions.order files here after ∧
        runFormat host.reformat conditions files here request =
          deliver conditions.disk here request text (.ofOutput text output) after) ∨
    (∀ text output, ¬ request.Formats host conditions.order files here text output) ∧
      ∃ (after : Files) (line : String), request.Leaves host conditions.order files here after ∧
        runFormat host.reformat conditions files here request =
          .failure after failureCode line := by
  by_cases h : ∃ text output, request.Formats host conditions.order files here text output
  · obtain ⟨text, output, h⟩ := h
    exact .inl ⟨text, output, h, runFormat_of_formats htidy hplace h⟩
  · simp only [not_exists] at h
    exact .inr ⟨h, runFormat_of_not_formats htidy hplace h⟩

theorem runFormat_code :
    (runFormat host.reformat conditions files here request).code = 0 ∨
      (runFormat host.reformat conditions files here request).code = failureCode := by
  rcases runFormat_cases htidy hplace with
    ⟨text, output, -, after, hafter, hreport⟩ | ⟨-, after, line, -, hreport⟩
  · rw [hreport]
    exact (ofDelivery_deliver hafter hplace _ _ _).code.imp And.left And.left
  · rw [hreport]
    exact .inr rfl

/-- **A run succeeds if there is a result and it is delivered.** -/
theorem runFormat_code_eq_zero_iff :
    (runFormat host.reformat conditions files here request).code = 0 ↔
      ∃ text output, request.Formats host conditions.order files here text output ∧
        request.Delivers conditions.disk files here text output := by
  constructor
  · intro hcode
    rcases runFormat_cases htidy hplace with
      ⟨text, output, h, after, hafter, hreport⟩ | ⟨-, after, line, -, hreport⟩
    · rw [hreport] at hcode
      rcases (ofDelivery_deliver hafter hplace conditions.disk text output).code with
        ⟨-, hdelivers⟩ | ⟨hfailed, -⟩
      · exact ⟨text, output, h, hdelivers⟩
      · simp [hcode, failureCode] at hfailed
    · simp [hreport, Report.failure, failureCode] at hcode
  · rintro ⟨text, output, h, hdelivers⟩
    obtain ⟨after, hafter, hreport⟩ := runFormat_of_formats htidy hplace h
    rw [hreport]
    rcases (ofDelivery_deliver hafter hplace conditions.disk text output).code with
      ⟨hcode, -⟩ | ⟨-, hnot⟩
    · exact hcode
    · exact absurd hdelivers hnot

/--
**A run changes what it writes and what its call removes**: the file asked for, and a file in the
place of the backup of the scratch copy.
-/
theorem runFormat_files (path : Path) :
    let report := runFormat host.reformat conditions files here request
    report.files.get? path = files.get? path ∨
      ((∃ options text, request.Asks conditions.order files here options text ∧
          host.backup? options.mode = some path) ∧
        (∃ content, files.get? path = some (.file content)) ∧ report.files.get? path = none) ∨
      files.resolve here request.path = .ok path ∧ request.delivery = .rewrite ∧
        ∃ text output, request.Formats host conditions.order files here text output ∧
          output ≠ text ∧ report.Wrote conditions.disk path (Text.encode output) := by
  intro report
  -- Up to the delivery a call has at most removed what was in the place of its backup.
  have hleft {after : Files} (hafter : request.Leaves host conditions.order files here after)
      (hsame : report.files.get? path = after.get? path) :
      report.files.get? path = files.get? path ∨
        (∃ options text, request.Asks conditions.order files here options text ∧
          host.backup? options.mode = some path) ∧
        (∃ content, files.get? path = some (.file content)) ∧ report.files.get? path = none := by
    obtain ⟨place?, hloses, hlost⟩ := hafter
    rw [hsame]
    exact (hloses path).imp_right fun ⟨hmem, hgone⟩ ↦ ⟨hlost path hmem, hgone⟩
  rcases runFormat_cases htidy hplace with
    ⟨text, output, h, after, hafter, hreport⟩ | ⟨-, after, line, hafter, hreport⟩
  · have hkeeps := (ofDelivery_deliver hafter hplace conditions.disk text output).keeps path
    rw [← hreport] at hkeeps
    rcases hkeeps with hsame | ⟨hresolve, hrewrite, hne, hwrote⟩
    · exact (hleft hafter hsame).imp_right .inl
    · exact .inr (.inr ⟨hresolve, hrewrite, text, output, h, hne, hwrote⟩)
  · exact (hleft hafter (by rw [show report = _ from hreport]; rfl)).imp_right .inl

end Run

end CommandLine

end RonWorkbench
