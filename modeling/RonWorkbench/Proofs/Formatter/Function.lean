import RonWorkbench.Proofs.Formatter.Call
import RonWorkbench.Proofs.Text.Encoding

/-!
# Formatters that compute a function

A formatter computes a function (`Host.Computes`) if, whenever it ends well, it has printed the
function's value at the document, which it finds on its input or in its scratch copy. Both ways of
handing it the document then come to the same: a call that gives an outcome has compared the
document with the function's value there (`Host.Computes.printed_eq`).

There is such a host for every function, and its calls succeed (`Host.computes_ofFunction`,
`Host.result_ofFunction`).
-/

namespace RonWorkbench.Formatter

/-- A formatter that does this has printed the output if it ends well. -/
def Call.Gives (events : List Event) (output : List UInt8) : Prop :=
  ending? events = some (.code 0) → printed events = output

/-- The scratch copy is the first argument. -/
theorem Options.exists_arguments {options : Options} (h : options.mode = .tempFile)
    (file : String) : ∃ more, options.arguments (some file) = file :: more :=
  ⟨_, by simp only [arguments, h, List.cons_append]; rfl⟩

/-- A formatter that prints a text, which is not too long, and ends well gives an outcome. -/
theorem Call.result_run_prints_ends {c : Call} (hresult : c.result = none)
    (hprocess : c.process = some .running) (hstdout : c.stdout = []) (hstderr : c.stderr = [])
    {output : List Char} (hsize : (Text.encode output).length ≤ c.options.outputLimit) :
    (c.run [.prints (Text.encode output), .ends (.code 0), .exchange, .deadline]).result =
      some (.ok (.ofOutput c.text output)) := by
  have hstep : c.run [.prints (Text.encode output), .ends (.code 0), .exchange, .deadline] =
      { c with stdout := Text.encode output, process := some (.ended (.code 0)) }.run
        [.exchange, .deadline] := by
    simp [run, step, move, act, hresult, hprocess, hstdout]
  rw [hstep]
  simp [run, step, move, look, hresult, finish, verdict, overflows, hstderr, hsize, Nat.not_lt.2,
    ExitStatus.isSuccess]

namespace Host

/--
What a host runs as a formatter prints a function of the document alone if it ends well, and changes
no files but its scratch copy and the backup of that.
-/
structure Computes (host : Host) (f : List Char → List Char) : Prop where
  tidy : ∀ options text files, host.HasPlace files → host.IsTidy options text files
  input : ∀ program arguments text files,
    Call.Gives ((host.behaviour program arguments (some (Text.encode text)) files).map Prod.snd)
      (Text.encode (f text))
  scratch : ∀ program path more text files, host.scratch = .ok path →
    files.get? path = some (.file (Text.encode text)) →
      Call.Gives ((host.behaviour program (renderPath path :: more) none files).map Prod.snd)
        (Text.encode (f text))

/-- **However it is handed the document, the formatter prints the function's value there.** -/
theorem Computes.printed_eq {host : Host} {f : List Char → List Char} (h : host.Computes f)
    {options : Options} {text : List Char} {files : Files} (hplace : host.HasPlace files)
    {outcome : Outcome} (hresult : (host.call options text files).result = some (.ok outcome)) :
    host.printed options text files = Text.encode (f text) := by
  have hbegun : (Call.start host files options text).IsBegun host options text files :=
    Call.isBegun_start hplace
  obtain ⟨hprocess, hhanded, hending, -⟩ := result_eq_ok (h.tidy _ _ _ hplace) hplace hresult
  have hgives : Call.Gives (host.events options text files) (Text.encode (f text)) := by
    rw [Call.IsHanded, hbegun.options_eq, hbegun.text_eq] at hhanded
    rw [events, acts, if_pos hprocess]
    cases hmode : options.mode with
    | stdin =>
      rw [input?, if_pos hmode]
      exact h.input _ _ _ _
    | tempFile =>
      rw [hmode] at hhanded
      obtain ⟨path, hscratch, hcopy, hcontent⟩ := hhanded
      obtain ⟨more, hmore⟩ := options.exists_arguments hmode (renderPath path)
      rw [input?, hmode, if_neg (by simp), hcopy, Option.map_some, hmore]
      exact h.scratch _ path more text _ hscratch hcontent
  exact hgives hending

/-! ### A host for a function -/

/-- Print the function's value at a text and end well, or end badly if the bytes are no text. -/
def reply (f : List Char → List Char) (bytes : List UInt8) : List Event :=
  match Text.decode? bytes with
  | some text => [.prints (Text.encode (f text)), .ends (.code 0)]
  | none => [.ends (.code 1)]

/-- The files with a backup of the file at a path, unless a directory is in its place. -/
def withBackup (files : Files) (path : Path) (bytes : List UInt8) : Files :=
  if files.get? (backupOf path) = some .directory then files
  else files.set (backupOf path) (.file bytes)

/--
The host whose every program computes a function; in temp-file mode it leaves a backup of its
scratch copy, which is made at the path.
-/
def ofFunction (f : List Char → List Char) (path : Path) : Host where
  locate? program := some program
  scratch := .ok path
  refusal? _ _ := none
  behaviour _ _ input files :=
    match input, files.get? path with
    | some bytes, _ => (reply f bytes).map fun event ↦ (0, event)
    | none, some (.file bytes) =>
      (.changesFiles (withBackup files path bytes) :: reply f bytes).map
        fun event ↦ (0, event)
    | none, _ => [(0, .ends (.code 1))]

variable {f : List Char → List Char} {path : Path}

theorem gives_reply (text : List Char) :
    Call.Gives (reply f (Text.encode text)) (Text.encode (f text)) := by
  intro _
  simp [reply, Call.printed]

/-- A reply is the formatter's own and changes no files. -/
theorem isOwn_and_spares_of_mem_reply {bytes : List UInt8} {event : Event}
    (h : event ∈ reply f bytes) :
    event.isOwn = true ∧ ∀ before aside, event.Spares before aside := by
  unfold reply at h
  split at h <;> simp only [List.mem_cons, List.not_mem_nil, or_false] at h
  · rcases h with rfl | rfl <;> exact ⟨rfl, fun _ _ ↦ trivial⟩
  · subst h
    exact ⟨rfl, fun _ _ ↦ trivial⟩

/-- Making the backup of a scratch copy spares the other files. -/
theorem spares_backup {before now : Files} {bytes : List UInt8}
    (houtside : ∀ other, other ∉ Formatter.sideFiles (some path) →
      now.get? other = before.get? other)
    (hdirectory : ∀ side ∈ Formatter.sideFiles (some path),
      now.get? side = some .directory ↔ before.get? side = some .directory) :
    (Event.changesFiles (withBackup now path bytes)).Spares before
      (Formatter.sideFiles (some path)) := by
  unfold withBackup
  split
  · exact ⟨houtside, hdirectory⟩
  · next hbackup =>
    refine ⟨fun other hother ↦ ?_, fun side hside ↦ ?_⟩
    · rw [Keyed.get?_set, if_neg, houtside other hother]
      rintro rfl
      exact hother (by simp [Formatter.sideFiles])
    · rw [Keyed.get?_set]
      split
      · next heq =>
        rw [← hdirectory side hside, heq]
        simpa using hbackup
      · exact hdirectory side hside

/-- What runs on the host replies, or leaves the backup if it has no input. -/
theorem of_mem_behaviour {program : String} {arguments : List String}
    {input : Option (List UInt8)} {files : Files} {act : Nat × Event}
    (h : act ∈ (ofFunction f path).behaviour program arguments input files) :
    (act.2.isOwn = true ∧ ∀ before aside, act.2.Spares before aside) ∨
      input = none ∧ ∃ bytes, files.get? path = some (.file bytes) ∧
        act.2 = .changesFiles (withBackup files path bytes) := by
  simp only [ofFunction] at h
  split at h
  · obtain ⟨event, hevent, rfl⟩ := List.mem_map.1 h
    exact .inl (isOwn_and_spares_of_mem_reply hevent)
  · next bytes hfile =>
    obtain ⟨event, hevent, rfl⟩ := List.mem_map.1 h
    rcases List.mem_cons.1 hevent with rfl | hevent
    · exact .inr ⟨rfl, bytes, hfile, rfl⟩
    · exact .inl (isOwn_and_spares_of_mem_reply hevent)
  · obtain rfl := List.mem_singleton.1 h
    exact .inl ⟨rfl, fun _ _ ↦ trivial⟩

theorem isTidy_ofFunction (options : Options) (text : List Char) {files : Files}
    (hplace : (ofFunction f path).HasPlace files) :
    (ofFunction f path).IsTidy options text files := by
  have hbegun : (Call.start (ofFunction f path) files options text).IsBegun (ofFunction f path)
      options text files := Call.isBegun_start hplace
  have hacts : ∀ act ∈ (ofFunction f path).acts options text files, act.2.isOwn = true ∧
      act.2.Spares files
        (Formatter.sideFiles (Call.start (ofFunction f path) files options text).scratch) := by
    intro act hact
    rcases hbegun.running_or_failed with ⟨-, hprocess, hhanded⟩ | ⟨hprocess, -⟩
    · rw [acts, if_pos hprocess] at hact
      rcases of_mem_behaviour hact with ⟨hown, hspares⟩ | ⟨hinput, bytes, hfile, hevent⟩
      · exact ⟨hown, hspares _ _⟩
      · -- without an input the document is in the scratch copy, and the backup is beside that
        have hmode : options.mode = .tempFile := by
          cases hmode : options.mode <;> simp_all [input?]
        rw [Call.IsHanded, hbegun.options_eq, hmode] at hhanded
        obtain ⟨place, hmade, hscratch, -⟩ := hhanded
        obtain rfl : path = place := Except.ok.inj hmade
        have houtside := hbegun.spares.outside
        have hdirectory := hbegun.spares.directory_iff
        rw [hscratch] at houtside hdirectory ⊢
        rw [hevent]
        exact ⟨rfl, spares_backup houtside hdirectory⟩
    · rw [acts, if_neg hprocess] at hact
      simp at hact
  exact ⟨fun act hact ↦ (hacts act hact).1, fun act hact ↦ (hacts act hact).2⟩

/-- **Every function is computed by a host.** -/
theorem computes_ofFunction (f : List Char → List Char) (path : Path) :
    (ofFunction f path).Computes f where
  tidy options text files hplace := isTidy_ofFunction options text hplace
  input program arguments text files := by
    simp only [ofFunction, List.map_map, Function.comp_def, List.map_id']
    exact gives_reply text
  scratch program place more text files hplace hcontent := by
    obtain rfl : path = place := Except.ok.inj hplace
    simp only [ofFunction, hcontent, List.map_map, Function.comp_def, List.map_id']
    exact gives_reply text

/-- **The calls of such a host succeed**, if there is time and the value is not too long. -/
theorem result_ofFunction {options : Options} {text : List Char} {files : Files}
    (hnul : ∀ file ∈ [none, some (renderPath path)], nulFault? (options.arguments file) = none)
    (htime : startupTime ≤ options.timeout)
    (hsize : (Text.encode (f text)).length ≤ options.outputLimit) :
    ((ofFunction f path).call options text files).result =
      some (.ok (.ofOutput text (f text))) := by
  have hreply : reply f (Text.encode text) = [.prints (Text.encode (f text)), .ends (.code 0)] := by
    simp [reply]
  -- In either mode the document reaches the function: on the input, or in the scratch copy.
  cases hmode : options.mode with
  | stdin =>
    have hstart : Call.start (ofFunction f path) files options text =
        { Call.new files options text with started := 1, process := some .running } := by
      have hnone : nulFault? (options.arguments none) = none := hnul _ (by simp)
      simp [Call.start, ofFunction, hmode, Call.launch, hnone, Call.new]
    have htimely : (ofFunction f path).timely options text files =
        [.prints (Text.encode (f text)), .ends (.code 0)] := by
      rw [timely, acts, hstart, if_pos rfl, input?, if_pos hmode]
      simp [ofFunction, hreply, htime]
    rw [call, hstart, htimely]
    exact Call.result_run_prints_ends rfl rfl rfl rfl hsize
  | tempFile =>
    have hstart : Call.start (ofFunction f path) files options text =
        { Call.new files options text with
          files := files.set path (.file (Text.encode text)), scratch := some path, started := 1,
          process := some .running } := by
      have hnone : nulFault? (options.arguments (some (renderPath path))) = none :=
        hnul _ (by simp)
      simp [Call.start, ofFunction, hmode, Call.launch, hnone, Call.new]
    have hcopy : Keyed.get? (Keyed.set files path (.file (Text.encode text))) path =
        some (.file (Text.encode text)) := by
      rw [Keyed.get?_set, if_pos rfl]
    have htimely : (ofFunction f path).timely options text files =
        [.changesFiles (withBackup (Keyed.set files path (.file (Text.encode text))) path
          (Text.encode text)), .prints (Text.encode (f text)), .ends (.code 0)] := by
      rw [timely, acts, hstart, if_pos rfl, input?, hmode, if_neg (by simp)]
      simp [ofFunction, hcopy, hreply, htime]
    rw [call, hstart, htimely]
    exact Call.result_run_prints_ends rfl rfl rfl rfl hsize

end Host

end RonWorkbench.Formatter
