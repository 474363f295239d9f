import RonWorkbench.Proofs.CommandLine.Formatting
import RonWorkbench.Proofs.Settings.Flags

/-!
# Printing, checking and rewriting agree

With a formatter that computes a function, what a run does is told from the text in its file alone
(`runFormat_holding`): it takes a file that holds a text to the function's value there. So checking
succeeds, printing gives the file's content and rewriting succeeds and leaves it just if the
function's value at the text is the text, and once a file was rewritten with a value that the
function keeps, no run changes it (`run_format_modes_agree`).

Each run goes through its settings in an order of its own and meets a disk of its own. The order
does not matter here, for the function is of the text alone. The disk does: a file that it does not
let be written stays as it is, formatted or not, so that rewriting has left a file says something of
the file only if rewriting succeeded.
-/

namespace RonWorkbench

namespace Files

/-- The files with a text at a place. -/
def holding (files : Files) (place : Path) (text : List Char) : Files :=
  files.set place (.file (Text.encode text))

section Holding

variable {files now : Files} {place : Path} {place? : Option Path} {text : List Char}

theorem get?_holding (files : Files) (place : Path) (text : List Char) :
    (files.holding place text).get? place = some (.file (Text.encode text)) := by
  rw [holding, Keyed.get?_set, if_pos rfl]

theorem get?_holding_of_ne {other : Path} (h : other ≠ place) :
    (files.holding place text).get? other = files.get? other := by
  rw [holding, Keyed.get?_set, if_neg h]

theorem same_holding (h : files.get? place = some (.file (Text.encode text))) :
    files.Same (files.holding place text) := by
  intro other
  by_cases hother : other = place
  · rw [hother, h, get?_holding]
  · rw [get?_holding_of_ne hother]

/-- The text that was there before does not matter. -/
theorem Loses.holding (h : (files.holding place text).Loses place? now) (new : List Char) :
    (files.holding place new).Loses place? (now.holding place new) := by
  have hloses := h.set place (.file (Text.encode new))
  rwa [Files.holding, Keyed.set_set] at hloses

end Holding

/-- A file that is not found before a loss is not found after it. -/
theorem Loses.fileAt?_eq_none {before after : Files} {place? : Option Path}
    (h : before.Loses place? after)
    (habove : ∀ place ∈ place?, before.get? place.dropLast = some .directory) {here : Path}
    {written : String} (hnone : Settings.fileAt? before here written = none) :
    Settings.fileAt? after here written = none := by
  rw [Option.eq_none_iff_forall_ne_some] at hnone ⊢
  intro content hcontent
  exact hnone content (Fallible.toOption_eq_some.2
    (h.read_eq_ok habove (Fallible.toOption_eq_some.1 hcontent)))

end Files

namespace CommandLine

open Formatter

/-- The same request, with the result going elsewhere. -/
def FormatRequest.delivering (request : FormatRequest) (delivery : Delivery) : FormatRequest :=
  { request with delivery }

/--
Formatting succeeds when the file asked for holds a text and all others are as they are, but for a
file in the place of the backup: the settings load in every order, and the formatter makes something
of the text.
-/
def FormatRequest.Succeeds (request : FormatRequest) (host : Host) (files : Files) (here : Path)
    (source : Path) (text : List Char) : Prop :=
  ∀ (order : Settings.Order) (now : Files),
    (files.holding source text).Loses (host.backup? .tempFile) now →
      ∃ shown output, request.Formats host order now here shown output

/--
Where the path of a request leads there is a file, and it holds a text. It is not in the place of
the backup of the scratch copy.
-/
structure FormatRequest.HasSource (request : FormatRequest) (host : Host) (files : Files)
    (here source : Path) (text : List Char) : Prop where
  resolve_eq : files.resolve here request.path = .ok source
  get?_eq : files.get? source = some (.file (Text.encode text))
  isDirectory_eq : files.isDirectory source = false
  isApart : host.backup? .tempFile ≠ some source

/-- Whatever a run leaves, it has lost a file in the place of the backup at most. -/
theorem FormatRequest.Leaves.loses {request : FormatRequest} {host : Host}
    {order : Settings.Order} {files after : Files} {here : Path}
    (h : request.Leaves host order files here after) :
    files.Loses (host.backup? .tempFile) after := by
  obtain ⟨place?, hloses, hlost⟩ := h
  intro path
  refine (hloses path).imp_right ?_
  rintro ⟨hpath, hgone⟩
  obtain ⟨options, -, -, hbackup⟩ := hlost path hpath
  obtain ⟨-, hcopy⟩ := Host.backup?_eq_some_iff.1 hbackup
  exact ⟨Host.backup?_eq_some_iff.2 ⟨rfl, hcopy⟩, hgone⟩

section Holding

variable {host : Host} {f : List Char → List Char} {files now : Files} {here source : Path}
  {request : FormatRequest} {old text : List Char} (conditions : Conditions)
  (hplace : host.HasPlace files) (hsource : request.HasSource host files here source old)
  (hnow : (files.holding source text).Loses (host.backup? .tempFile) now)

include hplace hsource

/-- The directory of the scratch copy is no file. -/
theorem directory_holding (text : List Char) : ∀ place ∈ host.backup? .tempFile,
    (files.holding source text).get? place.dropLast = some .directory := by
  intro place hmem
  have hdirectory := hplace.directory place hmem
  have hne : place.dropLast ≠ source := by
    intro heq
    simp [heq, hsource.get?_eq] at hdirectory
  rw [Files.get?_holding_of_ne hne, hdirectory]

include hnow

/-- A file stays where it is, whatever it holds. -/
theorem hasSource_of_loses : request.HasSource host now here source text := by
  have hshape : (files.holding source text).SameShape files := Files.sameShape_set hsource.get?_eq _
  have habove := directory_holding hplace hsource text
  refine ⟨?_, ?_, ?_, hsource.isApart⟩
  · rw [hnow.resolve_eq_ok_iff habove, hshape.resolve_eq]
    exact hsource.resolve_eq
  · rw [hnow.get?_of_ne hsource.isApart, Files.get?_holding]
  · rw [hnow.isDirectory_eq habove, hshape.isDirectory_eq]
    exact hsource.isDirectory_eq

/-- What is written to the path of the request goes to the file. -/
theorem target_of_loses (delivery : Delivery) :
    now.target here (request.delivering delivery).path = .ok source := by
  have hsource' : request.HasSource host now here source text :=
    hasSource_of_loses hplace hsource hnow
  exact Files.target_of_resolve hsource'.resolve_eq hsource'.isDirectory_eq

/-- There is still a place for the scratch copy. -/
theorem hasPlace_of_loses : host.HasPlace now := by
  intro path hpath
  obtain ⟨hfree, hdirectory⟩ := hplace path hpath
  have hne : path ≠ source := by
    rintro rfl
    simpa [hfree] using hsource.get?_eq
  have hne' : path.dropLast ≠ source := by
    intro heq
    simp [heq, hsource.get?_eq] at hdirectory
  constructor
  · rcases hnow path with heq | ⟨-, -, hnone⟩
    · rw [heq, Files.get?_holding_of_ne hne, hfree]
    · exact hnone
  · rcases hnow path.dropLast with heq | ⟨-, ⟨content, hcontent⟩, -⟩
    · rw [heq, Files.get?_holding_of_ne hne', hdirectory]
    · simp [Files.get?_holding_of_ne hne', hdirectory] at hcontent

variable (hf : host.Computes f) (hsucceeds : request.Succeeds host files here source text)

include hf hsucceeds

/-- What is formatted is the text that the file holds, to the function's value there. -/
theorem formats_holding (order : Settings.Order) :
    request.Formats host order now here text (f text) := by
  obtain ⟨shown, output, hformats⟩ := hsucceeds order now hnow
  obtain ⟨options, outcome, hasks, hresult, hprinted⟩ := hformats
  -- the settings may depend on the file, but what is formatted is what the file holds
  obtain rfl : shown = text := by
    have hsource' : request.HasSource host now here source text :=
      hasSource_of_loses hplace hsource hnow
    obtain ⟨path, hresolve, hpath⟩ := hasks.exists_source
    obtain rfl : source = path := Except.ok.inj (hsource'.resolve_eq.symm.trans hresolve)
    rw [hsource'.get?_eq, Option.some.injEq, Entry.file.injEq, Text.encode_inj] at hpath
    exact hpath.symm
  exact ⟨options, outcome, hasks, hresult,
    hf.printed_eq (hasPlace_of_loses hplace hsource hnow) hresult⟩

/-- **A run delivers the function's value at the text that the file holds.** -/
theorem runFormat_holding (delivery : Delivery) :
    ∃ after : Files, now.Loses (host.backup? .tempFile) after ∧
      runFormat host.reformat conditions now here (request.delivering delivery) =
        deliver conditions.disk here (request.delivering delivery) text
          (.ofOutput text (f text)) after := by
  have hplace' : host.HasPlace now := hasPlace_of_loses hplace hsource hnow
  have hformats :
      (request.delivering delivery).Formats host conditions.order now here text (f text) :=
    formats_holding hplace hsource hnow hf hsucceeds conditions.order
  obtain ⟨after, hafter, hreport⟩ := runFormat_of_formats
    (fun options text _ ↦ hf.tidy options text now hplace') hplace' hformats
  exact ⟨after, hafter.loses, hreport⟩

theorem print_holding :
    (runFormat host.reformat conditions now here (request.delivering .print)).output = f text := by
  obtain ⟨after, -, hreport⟩ :=
    runFormat_holding conditions hplace hsource hnow hf hsucceeds .print
  rw [hreport, deliver_print rfl]
  rfl

theorem check_holding :
    (runFormat host.reformat conditions now here (request.delivering .check)).code = 0 ↔
      f text = text := by
  obtain ⟨after, -, hreport⟩ :=
    runFormat_holding conditions hplace hsource hnow hf hsucceeds .check
  rw [hreport, deliver_check rfl]
  split
  · next heq => exact iff_of_true rfl heq
  · next hne => exact iff_of_false (by simp [Report.failure, failureCode]) hne

/-- Rewriting succeeds if the disk lets the function's value be written, or if it need not be. -/
theorem rewrite_code_holding :
    (runFormat host.reformat conditions now here (request.delivering .rewrite)).code = 0 ↔
      f text = text ∨ conditions.disk source (Text.encode (f text)) = none := by
  obtain ⟨after, hafter, hreport⟩ :=
    runFormat_holding conditions hplace hsource hnow hf hsucceeds .rewrite
  rw [hreport]
  by_cases heq : f text = text
  · rw [deliver_rewrite_of_eq rfl heq]
    exact iff_of_true rfl (.inl heq)
  · have htarget := target_of_loses hplace hsource (hnow.trans hafter) .rewrite
    rw [deliver_rewrite_of_ne rfl heq, Files.write_of_target htarget, or_iff_right heq]
    rcases conditions.disk source (Text.encode (f text)) with _ | fault | ⟨fault, length⟩ <;>
      simp [Report.success, Report.failure, failureCode]

/-- **Rewriting that succeeds takes a file that holds a text to the function's value there.** -/
theorem rewrite_holding
    (hcode :
      (runFormat host.reformat conditions now here (request.delivering .rewrite)).code = 0) :
    (files.holding source (f text)).Loses (host.backup? .tempFile)
      (runFormat host.reformat conditions now here (request.delivering .rewrite)).files := by
  rw [rewrite_code_holding conditions hplace hsource hnow hf hsucceeds] at hcode
  obtain ⟨after, hafter, hreport⟩ :=
    runFormat_holding conditions hplace hsource hnow hf hsucceeds .rewrite
  rw [hreport]
  by_cases heq : f text = text
  · rw [deliver_rewrite_of_eq rfl heq, heq]
    exact hnow.trans hafter
  · have htarget := target_of_loses hplace hsource (hnow.trans hafter) .rewrite
    rw [deliver_rewrite_of_ne rfl heq, Files.write_of_target htarget,
      hcode.resolve_left heq]
    exact (hnow.trans hafter).holding (f text)

/-- No run changes a file that holds what the function keeps. -/
theorem runFormat_holding_of_eq (heq : f text = text) (delivery : Delivery) :
    now.Loses (host.backup? .tempFile)
      (runFormat host.reformat conditions now here (request.delivering delivery)).files := by
  obtain ⟨after, hafter, hreport⟩ :=
    runFormat_holding conditions hplace hsource hnow hf hsucceeds delivery
  rw [hreport]
  cases delivery with
  | print =>
    rw [deliver_print rfl]
    exact hafter
  | check =>
    rw [deliver_check rfl, if_pos heq]
    exact hafter
  | rewrite =>
    rw [deliver_rewrite_of_eq rfl heq]
    exact hafter

omit hsucceeds hnow in
/-- Formatting succeeds if the settings load and the formatter succeeds under them. -/
theorem succeeds_of_load {configuration : Settings.Configuration}
    (hload : ∀ (order : Settings.Order) (now : Files),
      (files.holding source text).Loses (host.backup? .tempFile) now →
        Settings.loadForCommand now here request.config request.flags order = .ok configuration)
    (hresult : ∀ now : Files, ∃ outcome,
      (host.call (configuration.formatter.toOptions none) text now).result = some (.ok outcome)) :
    request.Succeeds host files here source text := by
  intro order now hnow
  have hsource' : request.HasSource host now here source text :=
    hasSource_of_loses hplace hsource hnow
  obtain ⟨outcome, houtcome⟩ := hresult now
  have hread : readSource now here request.path = .ok text :=
    readSource_eq_ok_iff.2 (Files.read_eq_ok_iff.2 ⟨source, hsource'.resolve_eq, hsource'.get?_eq⟩)
  exact ⟨text, f text, _, outcome, ⟨configuration, hload order now hnow, hread, rfl⟩, houtcome,
    hf.printed_eq (hasPlace_of_loses hplace hsource hnow) houtcome⟩

end Holding

/-! ### Runs in a row -/

/-- The files after runs of lines, one after another, each under its conditions. -/
def leave (host : Host) (here : Path) (files : Files)
    (lines : List (Conditions × List String)) : Files :=
  lines.foldl (fun now line ↦ (run host.reformat now here line.2 line.1).files) files

section Lines

variable {host : Host} {f : List Char → List Char} {files now : Files} {here source : Path}
  {request : FormatRequest} {words : Delivery → List String} {old text : List Char}
  (hread : ∀ delivery, read (words delivery) = .ok (.format (request.delivering delivery)))
  (hplace : host.HasPlace files) (hsource : request.HasSource host files here source old)
  (hnow : (files.holding source text).Loses (host.backup? .tempFile) now)
  (hf : host.Computes f) (hsucceeds : request.Succeeds host files here source text)

include hread hplace hsource hnow hf hsucceeds

/-- **Runs in a row leave a file that holds what the function keeps.** -/
theorem loses_leave (heq : f text = text) (more : List (Conditions × Delivery)) :
    now.Loses (host.backup? .tempFile)
      (leave host here now (more.map fun line ↦ (line.1, words line.2))) := by
  -- each run finds a file that holds what the function keeps, and leaves it
  induction more generalizing now with
  | nil => exact (Files.Same.refl now).loses _
  | cons line more ih =>
    have hnext := runFormat_holding_of_eq line.1 hplace hsource hnow hf hsucceeds heq line.2
    rw [List.map_cons, leave, List.foldl_cons, run_of_read (hread line.2)]
    exact hnext.trans (ih (hnow.trans hnext))

end Lines

end CommandLine

end RonWorkbench
