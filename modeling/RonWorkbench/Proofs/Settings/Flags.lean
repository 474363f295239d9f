import Mathlib.Data.List.Perm.Basic
import RonWorkbench.Proofs.Files.Tree
import RonWorkbench.Proofs.Settings.Order

/-!
# Flags over a configuration

A flag is a single value put over the layers of files. It takes the place of one member of the
formatter's table and of nothing else (`Value.lookup_putMember`), so what is read is the
configuration of the files with the flag's value in one field (`Sets`, `Puts`).
-/

namespace RonWorkbench.Settings

open Fallible

/-! ### Records -/

section Part

variable {α : Type} {members : List (String × Value)} {record name other : String}
  {wanted place : Nat} {v : Value} {read : Value → Except TypedFault α}

/-- A part that was just put is read from what was put. -/
theorem part_putMember_self :
    part (.named (Value.putMember name v members)) record wanted place name read =
      (read v).mapError (TypedFault.within name) := by
  simp [part, Value.lookup_putMember]

theorem part_putMember_of_ne (h : other ≠ name) :
    part (.named (Value.putMember name v members)) record wanted place other read =
      part (.named members) record wanted place other read := by
  simp [part, Value.lookup_putMember, h]

end Part

/-- The formatter's settings are read from its table member by member. -/
theorem asFormatter_table {origin : Option String} {members : List (String × Value)}
    {s : FormatterSettings} :
    asFormatter (.table origin members) = .ok s ↔
      part (.named members) "FormatterConfig" 7 0 "path" asText = .ok s.path ∧
      part (.named members) "FormatterConfig" 7 1 "extra_args" asTexts = .ok s.extraArgs ∧
      part (.named members) "FormatterConfig" 7 2 "max_width" asSmallCount = .ok s.maxWidth ∧
      part (.named members) "FormatterConfig" 7 3 "tab_size" asSmallCount = .ok s.tabSize ∧
      part (.named members) "FormatterConfig" 7 4 "use_stdin" asBool = .ok s.useStdin ∧
      part (.named members) "FormatterConfig" 7 5 "timeout_ms" asCount = .ok s.timeout ∧
      part (.named members) "FormatterConfig" 7 6 "max_output_bytes" asCount =
        .ok s.outputLimit := by
  simp only [asFormatter, asRecord, bind_eq_ok, Except.ok.injEq, exists_eq_left', pure_eq_ok]
  constructor
  · rintro ⟨path, hpath, extraArgs, hextra, maxWidth, hmax, tabSize, htab, useStdin, huse, timeout,
      htimeout, outputLimit, hlimit, rfl⟩
    exact ⟨hpath, hextra, hmax, htab, huse, htimeout, hlimit⟩
  · rintro ⟨hpath, hextra, hmax, htab, huse, htimeout, hlimit⟩
    exact ⟨_, hpath, _, hextra, _, hmax, _, htab, _, huse, _, htimeout, _, hlimit, rfl⟩

/-- All settings are read from their two tables. -/
theorem asConfiguration_table {origin : Option String} {members : List (String × Value)}
    {c : Configuration} :
    asConfiguration (.table origin members) = .ok c ↔
      part (.named members) "RonConfig" 2 0 "formatter" asFormatter = .ok c.formatter ∧
      part (.named members) "RonConfig" 2 1 "tokens" asTokens = .ok c.listing := by
  simp only [asConfiguration, asRecord, bind_eq_ok, Except.ok.injEq, exists_eq_left', pure_eq_ok]
  constructor
  · rintro ⟨formatter, hformatter, listing, hlisting, rfl⟩
    exact ⟨hformatter, hlisting⟩
  · rintro ⟨hformatter, hlisting⟩
    exact ⟨_, hformatter, _, hlisting, rfl⟩

/-! ### What one flag does -/

/-- A value under a name of the formatter's table is read as a change of the settings. -/
structure Sets (name : String) (value : Scalar) (change : FormatterSettings → FormatterSettings) :
    Prop where
  foldName_eq : foldName name = name
  asFormatter_putMember : ∀ {origin : Option String} {members : List (String × Value)}
    {s : FormatterSettings}, asFormatter (.table origin members) = .ok s →
      asFormatter (.table origin (Value.putMember name (.scalar none value) members)) =
        .ok (change s)

theorem sets_path (program : String) :
    Sets "path" (.string program) fun s ↦ { s with path := program } where
  foldName_eq := by decide
  asFormatter_putMember h := by
    rw [asFormatter_table] at h ⊢
    obtain ⟨-, hrest⟩ := h
    refine ⟨?_, by simpa [part_putMember_of_ne] using hrest⟩
    rw [part_putMember_self, asText, mapError_ok]

theorem sets_useStdin :
    Sets "use_stdin" (.bool true) fun s ↦ { s with useStdin := true } where
  foldName_eq := by decide
  asFormatter_putMember h := by
    rw [asFormatter_table] at h ⊢
    simp_all [part_putMember_of_ne, part_putMember_self, asBool]

theorem asSmallCount_integer {n : Nat} (h : n < Bits.wordCount 32) :
    asSmallCount (.scalar none (.integer n)) = .ok n := by
  simp [asSmallCount, asCount, bind, Except.bind, pure, Except.pure, h]

/-- A tab size that fits is read as it is given. -/
theorem sets_tabSize {n : Nat} (hn : n < Bits.wordCount 32) :
    Sets "tab_size" (.integer n) fun s ↦ { s with tabSize := n } where
  foldName_eq := by decide
  asFormatter_putMember h := by
    rw [asFormatter_table] at h ⊢
    simp_all [part_putMember_of_ne, part_putMember_self, asSmallCount_integer]

theorem sets_maxWidth {n : Nat} (hn : n < Bits.wordCount 32) :
    Sets "max_width" (.integer n) fun s ↦ { s with maxWidth := n } where
  foldName_eq := by decide
  asFormatter_putMember h := by
    rw [asFormatter_table] at h ⊢
    simp_all [part_putMember_of_ne, part_putMember_self, asSmallCount_integer]

/-- The values are read as a configuration, and those of the formatter are in a table. -/
structure ReadAs (root : Value) (c : Configuration) : Prop where
  asConfiguration_eq : asConfiguration root = .ok c
  isTable_formatter : ∃ origin members, root.member? "formatter" = some (.table origin members)

/-- Values put in place change the formatter's settings and nothing else. -/
def Puts (overrides : List Override) (change : FormatterSettings → FormatterSettings) : Prop :=
  ∀ root c, ReadAs root c → ∃ changed, putOverrides overrides root = .ok changed ∧
    ReadAs changed { c with formatter := change c.formatter }

theorem Puts.nil : Puts [] id :=
  fun root _ h ↦ ⟨root, rfl, h⟩

/-- Overrides behind others change what the others have left. -/
theorem Puts.append {a b : List Override} {change next : FormatterSettings → FormatterSettings}
    (ha : Puts a change) (hb : Puts b next) : Puts (a ++ b) (next ∘ change) := by
  intro root c h
  obtain ⟨middle, hmiddle, h⟩ := ha root c h
  obtain ⟨changed, hchanged, h⟩ := hb middle _ h
  refine ⟨changed, ?_, h⟩
  rw [putOverrides, List.foldlM_append]
  exact bind_eq_ok.2 ⟨middle, hmiddle, hchanged⟩

/-- Overrides one after another change the settings one after another. -/
theorem puts_map_fst {changes : List (Override × (FormatterSettings → FormatterSettings))}
    (h : ∀ p ∈ changes, Puts [p.1] p.2) :
    Puts (changes.map Prod.fst) fun s ↦ changes.foldl (fun s p ↦ p.2 s) s := by
  induction changes with
  | nil => exact .nil
  | cons p changes ih =>
    rw [List.forall_mem_cons] at h
    exact h.1.append (ih h.2)

/-- An override takes the place of a member of the formatter's table. -/
theorem put_formatterOverride {name : String} (value : Scalar) (hname : foldName name = name)
    {above origin : Option String} {all members : List (String × Value)}
    (h : (Value.table above all).member? "formatter" = some (.table origin members)) :
    (formatterOverride name value).key.put (formatterOverride name value).toValue
        (.table above all) =
      .ok (.table above (Value.putMember "formatter"
        (.table origin (Value.putMember name (.scalar none value) members)) all)) := by
  have hformatter : foldName "formatter" = "formatter" := by decide
  have hput : Value.put name (.scalar none value) (.table origin members) =
      .table origin (Value.putMember name (.scalar none value) members) := by
    rw [Value.put, hname]
    · rfl
    · simp
  simp only [formatterOverride, Override.toValue, Key.put, putAlong, Value.forceTable,
    Value.isTable, if_true, hformatter, h, Option.getD_some, hput]
  rfl

/-- **An override of a field changes that field.** -/
theorem Sets.puts {name : String} {value : Scalar}
    {change : FormatterSettings → FormatterSettings} (h : Sets name value change) :
    Puts [formatterOverride name value] change := by
  rintro root c ⟨hread, origin, members, hmember⟩
  obtain ⟨above, all, rfl⟩ : ∃ above all, root = .table above all := by
    cases root with
    | table above all => exact ⟨above, all, rfl⟩
    | _ => simp [Value.member?, Value.members] at hmember
  have hput : putOverrides [formatterOverride name value] (.table above all) =
      .ok (.table above (Value.putMember "formatter"
        (.table origin (Value.putMember name (.scalar none value) members)) all)) := by
    rw [putOverrides, List.foldlM_cons, put_formatterOverride value h.foldName_eq hmember]
    rfl
  -- What is read is the settings with the change, and the table is there for the next override.
  refine ⟨_, hput, ?_, origin, _, (Value.lookup_putMember _ _ _ _).trans (if_pos rfl)⟩
  rw [asConfiguration_table] at hread ⊢
  obtain ⟨hformatter, hlisting⟩ := hread
  have hlookup : all.lookup "formatter" = some (.table origin members) := hmember
  rw [part, hlookup, mapError_eq_ok] at hformatter
  refine ⟨?_, ?_⟩
  · rw [part_putMember_self, h.asFormatter_putMember hformatter, mapError_ok]
  · rwa [part_putMember_of_ne (by decide)]

/-! ### All flags -/

/-- The counts of flags are 32-bit counts. -/
structure Flags.Fit (f : Flags) : Prop where
  tabSize_lt : ∀ n ∈ f.tabSize, n < Bits.wordCount 32
  maxWidth_lt : ∀ n ∈ f.maxWidth, n < Bits.wordCount 32

/-- Settings with the flags in place of what they are given for. -/
def Flags.apply (f : Flags) (s : FormatterSettings) : FormatterSettings :=
  { s with
    path := f.program.getD s.path
    useStdin := f.stdinMode || s.useStdin
    tabSize := f.tabSize.getD s.tabSize
    maxWidth := f.maxWidth.getD s.maxWidth }

/-- The overrides of the flags that are given, with what they change. -/
def Flags.changes (f : Flags) : List (Override × (FormatterSettings → FormatterSettings)) :=
  (f.program.map fun p ↦
      (formatterOverride "path" (.string p), fun s ↦ { s with path := p })).toList
    ++ (if f.stdinMode then
      [(formatterOverride "use_stdin" (.bool true), fun s ↦ { s with useStdin := true })] else [])
    ++ (f.tabSize.map fun n : Nat ↦
      (formatterOverride "tab_size" (.integer n), fun s ↦ { s with tabSize := n })).toList
    ++ (f.maxWidth.map fun n : Nat ↦
      (formatterOverride "max_width" (.integer n), fun s ↦ { s with maxWidth := n })).toList

/-- These are all overrides of the flags, in their order. -/
theorem Flags.map_fst_changes (f : Flags) : f.changes.map Prod.fst = f.overrides := by
  obtain ⟨program, stdinMode, tabSize, maxWidth⟩ := f
  cases program <;> cases stdinMode <;> cases tabSize <;> cases maxWidth <;> rfl

/-- Together the flags change what they are given for. -/
theorem Flags.foldl_changes (f : Flags) (s : FormatterSettings) :
    f.changes.foldl (fun s p ↦ p.2 s) s = f.apply s := by
  obtain ⟨program, stdinMode, tabSize, maxWidth⟩ := f
  cases program <;> cases stdinMode <;> cases tabSize <;> cases maxWidth <;> rfl

/-- A flag that is given is one of four. -/
theorem Flags.mem_changes {f : Flags} {p : Override × (FormatterSettings → FormatterSettings)}
    (h : p ∈ f.changes) :
    (∃ program ∈ f.program, p =
        (formatterOverride "path" (.string program), fun s ↦ { s with path := program })) ∨
      p = (formatterOverride "use_stdin" (.bool true), fun s ↦ { s with useStdin := true }) ∨
      (∃ n ∈ f.tabSize, p =
        (formatterOverride "tab_size" (.integer n), fun s ↦ { s with tabSize := n })) ∨
      ∃ n ∈ f.maxWidth, p =
        (formatterOverride "max_width" (.integer n), fun s ↦ { s with maxWidth := n }) := by
  simp only [changes, List.mem_append, Option.mem_toList, Option.map_eq_some_iff] at h
  rcases h with ((⟨program, hprogram, rfl⟩ | h) | ⟨n, hn, rfl⟩) | ⟨n, hn, rfl⟩
  · exact .inl ⟨program, hprogram, rfl⟩
  · split at h
    · exact .inr (.inl (List.mem_singleton.1 h))
    · simp at h
  · exact .inr (.inr (.inl ⟨n, hn, rfl⟩))
  · exact .inr (.inr (.inr ⟨n, hn, rfl⟩))

/-- Each flag has a setting of its own, so it does not matter which of two is put first. -/
theorem Flags.changes_comm {f : Flags} {p q : Override × (FormatterSettings → FormatterSettings)}
    (hp : p ∈ f.changes) (hq : q ∈ f.changes) (s : FormatterSettings) :
    q.2 (p.2 s) = p.2 (q.2 s) := by
  rcases Flags.mem_changes hp with ⟨_, hone, rfl⟩ | rfl | ⟨_, hone, rfl⟩ | ⟨_, hone, rfl⟩ <;>
    rcases Flags.mem_changes hq with ⟨_, htwo, rfl⟩ | rfl | ⟨_, htwo, rfl⟩ | ⟨_, htwo, rfl⟩ <;>
      simp_all

/-- Overrides in another order come with their changes in that order. -/
theorem Flags.exists_changes_of_perm {f : Flags} {overrides : List Override}
    (hperm : overrides.Perm f.overrides) :
    ∃ changes : List (Override × (FormatterSettings → FormatterSettings)),
      changes.Perm f.changes ∧ changes.map Prod.fst = overrides := by
  obtain ⟨changes, hfst, hchanges⟩ : ∃ changes,
      List.Forall₂ (fun o p ↦ o = p.1) overrides changes ∧ changes.Perm f.changes := by
    refine List.perm_comp_forall₂ hperm ?_
    rw [← f.map_fst_changes, List.forall₂_map_left_iff, List.forall₂_same]
    exact fun _ _ ↦ rfl
  refine ⟨changes, hchanges, ?_⟩
  rw [← List.forall₂_eq_eq_eq, List.forall₂_map_left_iff]
  exact hfst.flip.imp fun _ _ ho ↦ ho.symm

/-- A flag that is given is put at its setting, if its value fits. -/
theorem Flags.Fit.puts_of_mem_changes {f : Flags} (h : f.Fit)
    {p : Override × (FormatterSettings → FormatterSettings)} (hp : p ∈ f.changes) :
    Puts [p.1] p.2 := by
  rcases Flags.mem_changes hp with ⟨program, -, rfl⟩ | rfl | ⟨n, hn, rfl⟩ | ⟨n, hn, rfl⟩
  · exact (sets_path program).puts
  · exact sets_useStdin.puts
  · exact (sets_tabSize (h.tabSize_lt n hn)).puts
  · exact (sets_maxWidth (h.maxWidth_lt n hn)).puts

/-- **The flags change their fields**, in whatever order they are put. -/
theorem Flags.Fit.puts {f : Flags} (h : f.Fit) {overrides : List Override}
    (hperm : overrides.Perm f.overrides) : Puts overrides f.apply := by
  obtain ⟨changes, hchanges, rfl⟩ := Flags.exists_changes_of_perm hperm
  have hputs : Puts (changes.map Prod.fst) fun s ↦ changes.foldl (fun s p ↦ p.2 s) s :=
    puts_map_fst fun p hp ↦ h.puts_of_mem_changes (hchanges.mem_iff.1 hp)
  have happly (s : FormatterSettings) : changes.foldl (fun s p ↦ p.2 s) s = f.apply s := by
    rw [← f.foldl_changes]
    exact hchanges.foldl_eq' (fun p hp q hq s ↦ Flags.changes_comm (hchanges.mem_iff.1 hp)
      (hchanges.mem_iff.1 hq) s) s
  rwa [funext happly] at hputs

/-! ### Files -/

/-- The path of the file that is found under a name: the name itself, or with `.toml` behind it. -/
def foundPath? (files : Files) (here : Path) (name : String) : Option Path :=
  ([name, tidyPath name ++ ".toml"].find? fun written ↦ (fileAt? files here written).isSome).bind
    fun written ↦ (files.resolve here written).toOption

theorem fileAt?_eq_some_iff {files : Files} {here : Path} {written : String}
    {content : List UInt8} :
    fileAt? files here written = some content ↔
      ∃ path, files.resolve here written = .ok path ∧ files.get? path = some (.file content) := by
  rw [fileAt?, toOption_eq_some, Files.read_eq_ok_iff]

section Set

variable {files : Files} {here path : Path} {content : List UInt8}
  (hpath : files.isDirectory path = false) (habove : files.isDirectory path.dropLast = true)

include hpath habove

/-- A file put in place is noticed only where it is looked for. -/
theorem fileAt?_set {written : String}
    (h : Files.resolve (files.set path (.file content)) here written ≠ .ok path) :
    fileAt? (files.set path (.file content)) here written = fileAt? files here written := by
  ext bytes
  rw [fileAt?_eq_some_iff, fileAt?_eq_some_iff]
  refine exists_congr fun other ↦ ?_
  rw [← Files.resolve_eq_ok_congr (Files.isDirectory_set hpath habove content)]
  refine and_congr_right fun hother ↦ ?_
  have hne : other ≠ path := by
    rintro rfl
    exact h hother
  rw [Keyed.get?_set, if_neg hne]

/-- A file put in place does not matter to a name that is not found there. -/
theorem findFile?_set {name : String}
    (h : foundPath? (files.set path (.file content)) here name ≠ some path) :
    findFile? (files.set path (.file content)) here name = findFile? files here name := by
  have hread {written : String}
      (hresolve : Files.resolve (files.set path (.file content)) here written = .ok path) :
      fileAt? (files.set path (.file content)) here written = some content :=
    fileAt?_eq_some_iff.2 ⟨path, hresolve, by rw [Keyed.get?_set, if_pos rfl]⟩
  have hname : fileAt? (files.set path (.file content)) here name = fileAt? files here name := by
    refine fileAt?_set hpath habove fun hresolve ↦ h ?_
    simp [foundPath?, hread hresolve, hresolve, Except.toOption]
  rw [findFile?, findFile?, hname]
  cases hfound : fileAt? files here name with
  | some bytes => rfl
  | none =>
    have hlonger : fileAt? (files.set path (.file content)) here (tidyPath name ++ ".toml") =
        fileAt? files here (tidyPath name ++ ".toml") := by
      refine fileAt?_set hpath habove fun hresolve ↦ h ?_
      simp [foundPath?, hname, hfound, hread hresolve, hresolve, Except.toOption]
    simp only [hlonger]

/-- **A file that the settings are not found in has no part in them.** -/
theorem loadForCommand_set {config : String} (flags : Flags) (order : Order)
    (h : foundPath? (files.set path (.file content)) here config ≠ some path) :
    loadForCommand (files.set path (.file content)) here (some config) flags order =
      loadForCommand files here (some config) flags order := by
  have hlayer : Layer.read order (files.set path (.file content)) here ⟨config, true⟩ =
      Layer.read order files here ⟨config, true⟩ := by
    rw [Layer.read, Layer.read, Layer.toml, Layer.toml, findFile?_set hpath habove h]
  simp only [loadForCommand, load, putFiles, commandLayers, List.foldlM_cons, List.foldlM_nil,
    hlayer]

end Set

/-! ### The project's own file -/

/-- The project's own file is looked for in the working directory. -/
theorem resolve_projectFile {files : Files} {here : Path} (h : files.isDirectory here = true) :
    files.resolve here projectFile = .ok (here ++ [projectFile]) := by
  have hnames : Files.names projectFile = [projectFile] := by decide
  have hstep : Files.step here projectFile = here ++ [projectFile] := rfl
  rw [Files.resolve, if_neg (by decide), if_neg (by decide), if_neg (by decide), hnames,
    List.foldlM_cons, Files.enter, if_neg (by decide), h, hstep]
  rfl

/-- Where nothing is arranged, there is one order. -/
theorem Order.arrange_nil (order : Order) {α : Type} : order.arrange ([] : List α) = [] :=
  (order.perm []).eq_nil

/-- A file without members puts nothing. -/
theorem read_of_toml_nil {layer : Layer} {files : Files} {here : Path} {origin : Option String}
    (h : layer.toml files here = .ok (origin, [])) (order : Order) :
    layer.read order files here = .ok [] := by
  rw [Layer.read, h]
  exact congrArg Except.ok order.arrange_nil

/-- An empty file has no members. -/
theorem read_of_fileAt?_nil {files : Files} {here : Path} {layer : Layer}
    (h : fileAt? files here layer.file = some []) (order : Order) :
    layer.read order files here = .ok [] := by
  have htoml : layer.toml files here = .ok (some (tidyPath layer.file), []) := by
    rw [Layer.toml, findFile?, h]
    rfl
  exact read_of_toml_nil htoml order

section Missing

variable {files : Files} {here : Path} (hmissing : fileAt? files here projectFile = none)
  (hlonger : fileAt? files here (projectFile ++ ".toml") = none)

include hmissing hlonger

/-- A project file that is missing has no members either. -/
theorem read_of_missing (order : Order) :
    Layer.read order files here ⟨projectFile, false⟩ = .ok [] := by
  have htidy : tidyPath projectFile = projectFile := by decide
  have htoml : Layer.toml files here ⟨projectFile, false⟩ = .ok (none, []) := by
    simp only [Layer.toml, findFile?, hmissing, htidy, hlonger]
    rfl
  exact read_of_toml_nil htoml order

/-- Without a project file and without flags the settings are the built-in ones. -/
theorem loadForCommand_of_missing (order : Order) :
    loadForCommand files here none {} order = .ok {} := by
  have hoverrides : order.arrange (Flags.overrides {}) = [] := order.arrange_nil
  simp only [loadForCommand, load, putFiles, commandLayers, List.foldlM_cons, List.foldlM_nil,
    read_of_missing hmissing hlonger, hoverrides]
  rfl

/-- **An empty project file is no more than none.** -/
theorem loadForCommand_set_nil (flags : Flags) (order : Order) :
    loadForCommand (files.set (here ++ [projectFile]) (.file [])) here none flags order =
      loadForCommand files here none flags order := by
  have habove : Files.isDirectory (files.set (here ++ [projectFile]) (.file [])) here = true := by
    refine Files.isDirectory_iff.2 (.inr (.inl (Files.hasBelow_iff.2
      ⟨here ++ [projectFile], ?_, List.prefix_append _ _, by simp⟩)))
    rw [Keyed.get?_set, if_pos rfl]
    rfl
  have hempty : Layer.read order (files.set (here ++ [projectFile]) (.file [])) here
      ⟨projectFile, false⟩ = .ok [] := by
    refine read_of_fileAt?_nil (fileAt?_eq_some_iff.2 ⟨_, resolve_projectFile habove, ?_⟩) order
    rw [Keyed.get?_set, if_pos rfl]
  simp only [loadForCommand, load, putFiles, commandLayers, List.foldlM_cons, List.foldlM_nil,
    hempty, read_of_missing hmissing hlonger]

end Missing

/-! ### Loading with flags -/

/-- The layers of files give the formatter a table. -/
def HasFormatterTable (order : Order) (files : Files) (here : Path) (config : Option String) :
    Prop :=
  ∃ root origin members, putFiles order files here (commandLayers config) defaults = .ok root ∧
    root.member? "formatter" = some (.table origin members)

/-- Whether the formatter's settings are a table can be computed. -/
theorem hasFormatterTable_iff {order : Order} {files : Files} {here : Path}
    {config : Option String} :
    HasFormatterTable order files here config ↔
      ((putFiles order files here (commandLayers config) defaults).toOption.bind
        (Value.member? "formatter")).any Value.isTable = true := by
  rw [Option.any_eq_true]
  simp only [HasFormatterTable, Option.bind_eq_some_iff, toOption_eq_some]
  constructor
  · rintro ⟨root, origin, members, hroot, hmember⟩
    exact ⟨_, ⟨root, hroot, hmember⟩, rfl⟩
  · rintro ⟨v, ⟨root, hroot, hmember⟩, hv⟩
    cases v with
    | table origin members => exact ⟨root, origin, members, hroot, hmember⟩
    | _ => simp [Value.isTable] at hv

instance (order : Order) (files : Files) (here : Path) (config : Option String) :
    Decidable (HasFormatterTable order files here config) :=
  decidable_of_iff _ hasFormatterTable_iff.symm

section Flags

variable {files : Files} {here : Path} {config : Option String} {c : Configuration}

/-- Without flags a configuration is what is read of the files. -/
theorem loadForCommand_nil {order : Order} {root : Value}
    (hroot : putFiles order files here (commandLayers config) defaults = .ok root) :
    loadForCommand files here config {} order = (asConfiguration root).mapError .typed := by
  have hoverrides : order.arrange (Flags.overrides {}) = [] := order.arrange_nil
  rw [loadForCommand, load, hroot, hoverrides]
  rfl

/-- **Where names are apart, one configuration is loaded in every order.** -/
theorem loadForCommand_order {first second : Order}
    (hapart : ∀ layer ∈ commandLayers config, layer.NamesApart files here)
    (htable : HasFormatterTable first files here config)
    (hload : loadForCommand files here config {} first = .ok c) :
    HasFormatterTable second files here config ∧
      loadForCommand files here config {} second = .ok c := by
  obtain ⟨root, origin, members, hroot, hmember⟩ := htable
  obtain ⟨other, hother, hview⟩ := putFiles_follows hapart rfl root hroot
  refine ⟨?_, ?_⟩
  · have hsame : (root.member? "formatter").map Value.view =
        (other.member? "formatter").map Value.view := by
      rw [Value.map_view_member?, Value.map_view_member?, hview]
    rw [hmember, Option.map_some, eq_comm, Option.map_eq_some_iff] at hsame
    obtain ⟨v, hv, hformatter⟩ := hsame
    obtain ⟨origin', members', rfl⟩ : ∃ origin' members', v = .table origin' members' := by
      cases v with
      | table origin' members' => exact ⟨origin', members', rfl⟩
      | _ => simp [Value.view] at hformatter
    exact ⟨other, origin', members', hother, hv⟩
  · rw [loadForCommand_nil hroot] at hload
    rw [loadForCommand_nil hother, ← respects_asConfiguration hview, hload]

/-- Where two names fall on one place, the order decides. -/
example :
    let settings := Text.encode "[formatter]\npath = 'a'\nPath = 'b'\n".toList
    let files : Files := ⟨[(["work", "own.toml"], .file settings)]⟩
    let path := fun order ↦ (loadForCommand files ["work"] (some "own.toml") {} order).toOption.map
      fun c ↦ c.formatter.path
    path .written = some "b" ∧ path .reversed = some "a" := by
  decide +kernel

/-- **Flags are read over the configuration of the files.** -/
theorem loadForCommand_flags {order : Order} {flags : Flags}
    (hload : loadForCommand files here config {} order = .ok c)
    (htable : HasFormatterTable order files here config) (hfit : flags.Fit) :
    loadForCommand files here config flags order =
      .ok { c with formatter := flags.apply c.formatter } := by
  obtain ⟨root, origin, members, hroot, hmember⟩ := htable
  have hread : asConfiguration root = .ok c := by
    rw [loadForCommand_nil hroot] at hload
    exact mapError_eq_ok.1 hload
  obtain ⟨changed, hput, hchanged, -⟩ :=
    hfit.puts (order.perm flags.overrides) root c ⟨hread, origin, members, hmember⟩
  rw [loadForCommand, load, hroot]
  refine bind_eq_ok.2 ⟨root, rfl, bind_eq_ok.2 ⟨changed, hput, ?_⟩⟩
  rw [hchanged, mapError_ok]

end Flags

end RonWorkbench.Settings
