import RonWorkbench.Formatter.Life
import RonWorkbench.Proofs.Formatter.Call

/-!
# What the life of a formatter process leaves

What holds at every stage is said of the processes (`Life.Governed`) and of the files
(`Life.Contained`), and each step keeps both. So a call that has returned, in whatever way, has
reaped its process and left no file behind (`Life.Reachable.returned`). A run of a `Call` is such a
life, seen from further away (`Life.Reachable.exists_run`).
-/

namespace RonWorkbench

namespace Formatter

namespace Stage

/-- No process has been started yet. -/
def isEarly : Stage → Bool
  | locating | preparing _ | filling _ | launching _ => true
  | _ => false

/-- There is no scratch file yet. -/
def isBare : Stage → Bool
  | locating | preparing _ => true
  | _ => false

/-- The call is done with its process. -/
def isLate : Stage → Bool
  | clearing _ | unlinking _ | returned _ => true
  | _ => false

/-- No process can have made a backup, or it has been removed. -/
def hasNoBackup : Stage → Bool
  | filling _ | unlinking _ | returned _ => true
  | _ => false

/-- The call has returned. -/
def isReturned : Stage → Bool
  | returned _ => true
  | _ => false

/-- What the call is going to return, once that is decided. -/
def result? : Stage → Option (Except Fault Outcome)
  | killing fault | reaping fault => some (.error fault)
  | clearing result | unlinking result | returned result => some result
  | _ => none

theorem eq_returned {stage : Stage} (h : stage.isReturned = true) :
    ∃ result, stage = .returned result := by
  cases stage with
  | returned result => exact ⟨result, rfl⟩
  | _ => simp [isReturned] at h

end Stage

namespace Life

variable {host : Host} {options : Options} {text : List Char} {before : Files} {s t : Life}

/-! ### The processes -/

/-- There is one process at most, none before it is started, and none that is not reaped late. -/
structure Governed (s : Life) : Prop where
  length_le : s.processes.length ≤ 1
  early : s.stage.isEarly = true → s.processes = []
  late : s.stage.isLate = true → ∀ p ∈ s.processes, p = .reaped
  /-- Without a scratch file that is filled there is no process at all. -/
  unfilled : ∀ cause, s.stage.result? = some (.error (.scratch cause)) → s.processes = []

/-- Going on to another stage keeps the processes governed, if none is left running by that. -/
theorem Governed.goOn (h : s.Governed) (hprocesses : t.processes = s.processes)
    (hearly : t.stage.isEarly = true → s.stage.isEarly = true)
    (hlate : t.stage.isLate = true → s.stage.isEarly = true ∨ s.stage.isLate = true)
    (hunfilled : ∀ cause, t.stage.result? = some (.error (.scratch cause)) →
      s.stage.isEarly = true ∨ s.stage.result? = some (.error (.scratch cause))) :
    t.Governed where
  length_le := hprocesses ▸ h.length_le
  early ht := hprocesses ▸ h.early (hearly ht)
  late ht := by
    rw [hprocesses]
    rcases hlate ht with hs | hs
    · simp [h.early hs]
    · exact h.late hs
  unfilled cause ht := by
    rw [hprocesses]
    rcases hunfilled cause ht with hs | hs
    · exact h.early hs
    · exact h.unfilled cause hs

/-- A verdict on a formatter speaks of no copy. -/
theorem verdict_ne_scratch {c : Call} {status : ExitStatus} {cause : String} :
    c.verdict status ≠ .error (.scratch cause) := by
  unfold Call.verdict
  split
  · simp
  · split
    · simp
    · split <;> simp

/-- With its process reaped, a call has none left. -/
theorem Governed.reap (h : s.Governed) {status : ExitStatus} {others : List ProcessState}
    (hended : s.processes = .ended status :: others) {result : Except Fault Outcome}
    (hresult : ∀ cause, result ≠ .error (.scratch cause)) :
    Governed { s with stage := .clearing result, processes := .reaped :: others } := by
  have hothers : others = [] := by
    have hlength := h.length_le
    rw [hended, List.length_cons] at hlength
    exact List.length_eq_zero_iff.1 (by omega)
  exact {
    length_le := by simp [hothers]
    early := by simp [Stage.isEarly]
    late := by simp [hothers]
    unfilled := fun cause hs ↦ absurd (Option.some.inj hs) (hresult cause) }

/-- **Each step keeps the processes governed.** -/
theorem Governed.step (h : s.Governed) (hstep : Step host options text s t) : t.Governed := by
  cases hstep with
  | notFound hstage _ | noScratch hstage _ | makes hstage _ | fills hstage _
  | fillingFails _ _ hstage _ | refused hstage _ | overflows hstage _ | pipeFails _ hstage
  | deadline hstage | abandon hstage | kills hstage | clears hstage _ | nothingToClear hstage _
  | unlinks hstage _ =>
    refine h.goOn rfl ?_ ?_ ?_ <;> simp [hstage, Stage.isEarly, Stage.isLate, Stage.result?]
  | found hstage _ =>
    refine h.goOn rfl ?_ ?_ ?_ <;> simp only [hstage] <;> split <;>
      simp [Stage.isEarly, Stage.isLate, Stage.result?]
  | prints _ _ | complains _ _ | changes _ _ _ => exact h.goOn rfl id .inr fun _ ↦ .inr
  -- The only step that starts a process, taken before any was started.
  | starts hstage _ =>
    have hnone : s.processes = [] := h.early (by simp [hstage, Stage.isEarly])
    exact {
      length_le := by simp [hnone]
      early := by simp [Stage.isEarly]
      late := by simp [Stage.isLate]
      unfilled := by simp [Stage.result?] }
  | ends first last status hrunning =>
    have hlength := h.length_le
    have hlate := h.late
    have hearly := h.early
    rw [hrunning] at hlength hlate hearly
    exact {
      length_le := by simpa using hlength
      early := fun hs ↦ by simpa using hearly hs
      late := fun hs ↦ by simpa using hlate hs .running (by simp)
      unfilled := fun cause hs ↦ by simpa [hrunning] using h.unfilled cause hs }
  | collects hstage hended _ => exact h.reap hended fun cause ↦ verdict_ne_scratch
  | @reaps fault _ _ hstage hended =>
    refine h.reap hended fun cause hcause ↦ ?_
    obtain rfl : fault = .scratch cause := Except.error.inj hcause
    simpa [hended] using h.unfilled cause (by rw [hstage, Stage.result?])

/-! ### The files -/

/--
The files are those from before, except for the scratch file and the backup of that; and of these
there are none any more when they have been removed.
-/
structure Contained (host : Host) (before : Files) (s : Life) : Prop where
  outside : ∀ path, path ∉ sideFiles s.scratch → s.files.get? path = before.get? path
  noDirectory : ∀ path ∈ sideFiles s.scratch, s.files.get? path ≠ some .directory
  aside : sideFiles s.scratch ⊆ host.sideFiles
  bare : s.stage.isBare = true → s.scratch = none
  noBackup : s.stage.hasNoBackup = true → ∀ path ∈ s.scratch,
    s.files.get? (backupOf path) = none
  noScratch : s.stage.isReturned = true → ∀ path ∈ s.scratch, s.files.get? path = none

/-- Going on to another stage keeps the files contained, if nothing is to be removed before that. -/
theorem Contained.goOn (h : s.Contained host before) (hfiles : t.files = s.files)
    (hscratch : t.scratch = s.scratch) (hbare : t.stage.isBare = true → s.stage.isBare = true)
    (hbackup : t.stage.hasNoBackup = true → s.stage.hasNoBackup = true ∨ s.scratch = none)
    (hreturned : t.stage.isReturned = true → s.stage.isReturned = true ∨ s.scratch = none) :
    t.Contained host before where
  outside := by
    rw [hfiles, hscratch]
    exact h.outside
  noDirectory := by
    rw [hfiles, hscratch]
    exact h.noDirectory
  aside := hscratch ▸ h.aside
  bare ht := hscratch ▸ h.bare (hbare ht)
  noBackup ht := by
    rw [hfiles, hscratch]
    rcases hbackup ht with hs | hs
    · exact h.noBackup hs
    · simp [hs]
  noScratch ht := by
    rw [hfiles, hscratch]
    rcases hreturned ht with hs | hs
    · exact h.noScratch hs
    · simp [hs]

/-- A process that runs has had the time to make a backup. -/
theorem Governed.hasNoBackup_of_running (h : s.Governed) (hrunning : .running ∈ s.processes) :
    s.stage.hasNoBackup = false := by
  cases hstage : s.stage with
  | filling program => simp [h.early (by rw [hstage, Stage.isEarly])] at hrunning
  | unlinking result | returned result =>
    simpa using h.late (by rw [hstage, Stage.isLate]) .running hrunning
  | _ => rfl

section Contained

variable (h : s.Contained host before) {path : Path}

include h

/-- Making the scratch file keeps the files contained. -/
theorem Contained.make (hroom : host.HasRoom before) (hnone : s.scratch = none)
    (hscratch : host.scratch = .ok path) (program : String) :
    Contained host before { s with
      stage := .filling program, files := s.files.set path (.file []), scratch := some path } := by
  have hsides : host.sideFiles = sideFiles (some path) := by
    rw [Host.sideFiles, hscratch]
    rfl
  have hget (p : Path) : (s.files.set path (.file [])).get? p =
      if p = path then some (.file []) else before.get? p := by
    rw [Keyed.get?_set, h.outside p (by simp [hnone, sideFiles])]
  have hfree : ∀ side ∈ sideFiles (some path), before.get? side = none := hsides ▸ hroom
  exact {
    outside := fun other hother ↦ by
      rw [hget, if_neg]
      rintro rfl
      simp [sideFiles] at hother
    noDirectory := fun other hother ↦ by
      rw [hget, hfree other hother]
      split <;> simp
    aside := hsides ▸ List.Subset.refl _
    bare := by simp [Stage.isBare]
    noBackup := fun _ other hother ↦ by
      obtain rfl : path = other := Option.some.inj hother
      rw [hget, if_neg (backupOf_ne path), hfree _ (by simp [sideFiles])]
    noScratch := by simp [Stage.isReturned] }

/-- Writing the scratch file keeps the files contained. -/
theorem Contained.write (hscratch : s.scratch = some path)
    (content : List UInt8) {stage : Stage} (hbare : stage.isBare = false)
    (hbackup : stage.hasNoBackup = true → s.stage.hasNoBackup = true)
    (hreturned : stage.isReturned = false) :
    Contained host before { s with
      stage := stage, files := s.files.set path (.file content) } := by
  obtain ⟨houtside, hnoDirectory, haside, -, hnoBackup, -⟩ := h
  rw [hscratch] at houtside hnoDirectory hnoBackup
  exact {
    outside := fun other hother ↦ by
      rw [hscratch] at hother
      rw [Keyed.get?_set, if_neg, houtside other hother]
      rintro rfl
      simp [sideFiles] at hother
    noDirectory := fun other hother ↦ by
      rw [hscratch] at hother
      rw [Keyed.get?_set]
      split
      · simp
      · exact hnoDirectory other hother
    aside := haside
    bare := by simp [hbare]
    noBackup := fun hs other hother ↦ by
      obtain rfl : path = other := Option.some.inj (hscratch.symm.trans hother)
      rw [Keyed.get?_set, if_neg (backupOf_ne path)]
      exact hnoBackup (hbackup hs) path rfl
    noScratch := by simp [hreturned] }

/-- What a running process does to its files keeps them contained. -/
theorem Contained.change (hgoverned : s.Governed) (hrunning : .running ∈ s.processes)
    {files : Files}
    (hspares : (Event.changesFiles files).Spares s.files (sideFiles s.scratch)) :
    Contained host before { s with files } where
  outside other hother := (hspares.1 other hother).trans (h.outside other hother)
  noDirectory other hother := fun hfile ↦
    h.noDirectory other hother ((hspares.2 other hother).1 hfile)
  aside := h.aside
  bare := h.bare
  noBackup hs := by simp [hgoverned.hasNoBackup_of_running hrunning] at hs
  noScratch (hs : s.stage.isReturned = true) := by
    obtain ⟨result, hstage⟩ := Stage.eq_returned hs
    have hlate := hgoverned.hasNoBackup_of_running hrunning
    simp [hstage, Stage.hasNoBackup] at hlate

/-- Removing a file that is set aside keeps the files contained. -/
theorem Contained.remove {side : Path} (hside : side ∈ sideFiles s.scratch) {stage : Stage}
    (hbare : stage.isBare = false)
    (hbackup : ∀ path ∈ s.scratch, backupOf path = side ∨ s.files.get? (backupOf path) = none)
    (hreturned : stage.isReturned = true → s.scratch = some side) :
    Contained host before { s with stage := stage, files := removeFile s.files side } := by
  have hget (p : Path) : (removeFile s.files side).get? p =
      if p = side then none else s.files.get? p :=
    Call.get?_removeFile s.files side p (h.noDirectory side hside)
  exact {
    outside := fun other hother ↦ by
      have hne : other ≠ side := by
        rintro rfl
        exact hother hside
      rw [hget, if_neg hne, h.outside other hother]
    noDirectory := fun other hother ↦ by
      rw [hget]
      split
      · simp
      · exact h.noDirectory other hother
    aside := h.aside
    bare := by simp [hbare]
    -- Of copy and backup one is removed here, and the backup, if it is the other, is gone already.
    noBackup := fun _ other hother ↦ by
      rw [hget]
      split
      · rfl
      · next hne => exact (hbackup other hother).resolve_left hne
    noScratch := fun hs other hother ↦ by
      rw [hget, if_pos (Option.some.inj ((hreturned hs).symm.trans hother)).symm] }

end Contained

/-- **Each step keeps the files contained.** -/
theorem Contained.step (h : s.Contained host before) (hgoverned : s.Governed)
    (hroom : host.HasRoom before) (hstep : Step host options text s t) :
    t.Contained host before := by
  cases hstep with
  | notFound hstage _ | noScratch hstage _ =>
    have hnone := h.bare (by simp [hstage, Stage.isBare])
    refine h.goOn rfl rfl ?_ (fun _ ↦ .inr hnone) (fun _ ↦ .inr hnone)
    simp [Stage.isBare]
  | found hstage _ =>
    refine h.goOn rfl rfl ?_ ?_ ?_ <;> simp only [hstage] <;> split <;>
      simp [Stage.isBare, Stage.hasNoBackup, Stage.isReturned]
  | refused hstage _ | starts hstage _ | overflows hstage _ | pipeFails _ hstage
  | collects hstage _ _ | deadline hstage | abandon hstage | kills hstage | reaps hstage _ =>
    refine h.goOn rfl rfl ?_ ?_ ?_ <;>
      simp [Stage.isBare, Stage.hasNoBackup, Stage.isReturned]
  | nothingToClear hstage hscratch =>
    refine h.goOn rfl rfl ?_ (fun _ ↦ .inr hscratch) (fun _ ↦ .inr hscratch)
    simp [Stage.isBare]
  | prints _ _ | complains _ _ | ends _ _ _ _ => exact h.goOn rfl rfl id .inl .inl
  -- From here on the steps change files, each only those of the call.
  | makes hstage hscratch =>
    exact h.make hroom (h.bare (by simp [hstage, Stage.isBare])) hscratch _
  | fills hstage hscratch =>
    exact h.write hscratch _ rfl (by simp [Stage.hasNoBackup]) rfl
  | fillingFails _ _ hstage hscratch =>
    exact h.write hscratch _ rfl (by simp [hstage, Stage.hasNoBackup]) rfl
  | changes _ hrunning hspares => exact h.change hgoverned hrunning hspares
  | @clears _ path hstage hscratch =>
    refine h.remove (by simp [hscratch, sideFiles]) rfl (fun other hother ↦ .inl ?_) ?_
    · rw [Option.some.inj (hscratch.symm.trans hother)]
    · simp [Stage.isReturned]
  | @unlinks _ path hstage hscratch =>
    refine h.remove (by simp [hscratch, sideFiles]) rfl (fun other hother ↦ .inr ?_)
      fun _ ↦ hscratch
    exact h.noBackup (by simp [hstage, Stage.hasNoBackup]) other hother

/-! ### What can be reached -/

namespace Reachable

/-- A step leads from a state that can be reached to another. -/
theorem step (h : Reachable host options text before s) (hstep : Step host options text s t) :
    Reachable host options text before t :=
  h.tail hstep

/-- **Every state that can be reached is governed.** -/
theorem governed (h : Reachable host options text before s) : s.Governed := by
  induction h with
  | refl => exact ⟨by simp [new], fun _ ↦ rfl, by simp [new], by simp [new]⟩
  | tail _ hstep ih => exact ih.step hstep

/-- **Every state that can be reached is contained**, if there was room at the start. -/
theorem contained (hroom : host.HasRoom before) (h : Reachable host options text before s) :
    s.Contained host before := by
  induction h with
  | refl =>
    exact {
      outside := fun _ _ ↦ rfl
      noDirectory := by simp [new, sideFiles]
      aside := by simp [new, sideFiles]
      bare := fun _ ↦ rfl
      noBackup := by simp [new]
      noScratch := by simp [new] }
  | tail hbefore hstep ih => exact ih.step (governed hbefore) hroom hstep

/-- **A call that has returned has reaped its process and left no file behind.** -/
theorem returned (hroom : host.HasRoom before) (h : Reachable host options text before s)
    {result : Except Fault Outcome} (hstage : s.stage = .returned result) :
    (∀ p ∈ s.processes, p = .reaped) ∧ s.files.Same before := by
  have hcontained := h.contained hroom
  refine ⟨h.governed.late (by rw [hstage, Stage.isLate]), fun path ↦ ?_⟩
  by_cases hside : path ∈ sideFiles s.scratch
  · rw [hroom path (hcontained.aside hside)]
    cases hscratch : s.scratch with
    | none => simp [hscratch, sideFiles] at hside
    | some copy =>
      have hcopy := hcontained.noScratch (by rw [hstage, Stage.isReturned]) copy hscratch
      have hbackup := hcontained.noBackup (by rw [hstage, Stage.hasNoBackup]) copy hscratch
      rw [hscratch, sideFiles, List.mem_cons, List.mem_singleton] at hside
      rcases hside with rfl | rfl
      · exact hcopy
      · exact hbackup
  · exact hcontained.outside path hside

/-- **Without a program or a scratch file a call makes and starts nothing.** -/
theorem untouched (h : Reachable host options text before s)
    (hno : host.locate? options.program = none ∨
      options.mode = .tempFile ∧ ∃ cause, host.scratch = .error cause) :
    s.processes = [] ∧ s.files = before := by
  -- The invariant says as well how far the call has come: not as far as to make a copy.
  suffices hall : (s.processes = [] ∧ s.files = before) ∧ (s.stage = .locating ∨
      (∃ program, s.stage = .preparing program ∧ host.locate? options.program = some program) ∨
      s.stage.isReturned = true) from hall.1
  induction h with
  | refl => exact ⟨⟨rfl, rfl⟩, .inl rfl⟩
  | tail _ hstep ih =>
    obtain ⟨⟨hprocesses, hfiles⟩, hstage⟩ := ih
    cases hstep with
    | notFound _ _ | noScratch _ _ => exact ⟨⟨hprocesses, hfiles⟩, .inr (.inr rfl)⟩
    | found _ hprogram =>
      refine ⟨⟨hprocesses, hfiles⟩, .inr (.inl ⟨_, ?_, hprogram⟩)⟩
      rcases hno with hnone | ⟨hmode, -⟩
      · simp [hnone] at hprogram
      · simp [hmode]
    | makes hs hscratch =>
      rcases hno with hnone | ⟨-, cause, hcause⟩
      · simp [hs, hnone, Stage.isReturned] at hstage
      · simp [hcause] at hscratch
    | prints _ hrunning | complains _ hrunning | changes _ hrunning _ =>
      simp [hprocesses] at hrunning
    | ends _ _ _ hrunning => simp [hprocesses] at hrunning
    | _ => simp_all [Stage.isReturned]

/-! ### The runs of a call -/

/-- From where the process is reaped a call comes to its end. -/
theorem exists_finish_of_clearing (h : Reachable host options text before s)
    {result : Except Fault Outcome} (hstage : s.stage = .clearing result) :
    ∃ t, Reachable host options text before t ∧
      t.call options text = (s.call options text).finish result := by
  have hreaped : s.processes.head?.map (fun _ ↦ .reaped) = s.processes.head? := by
    have hlate := h.governed.late (by rw [hstage, Stage.isLate])
    cases hprocesses : s.processes with
    | nil => rfl
    | cons p others => simp [hlate p (by simp [hprocesses])]
  cases hscratch : s.scratch with
  | none =>
    refine ⟨_, h.step (.nothingToClear hstage hscratch), ?_⟩
    simp [call, Call.finish, hreaped, hscratch]
  | some path =>
    refine ⟨_, (h.step (.clears hstage hscratch)).step (.unlinks rfl hscratch), ?_⟩
    simp [call, Call.finish, hreaped, hscratch]

/-- A process that is to be killed ends and is reaped, and the call comes to its end. -/
theorem exists_finish_of_killing (h : Reachable host options text before s) {fault : Fault}
    (hstage : s.stage = .killing fault) {p : ProcessState} (hprocesses : s.processes = [p])
    (hp : p ≠ .reaped) :
    ∃ t, Reachable host options text before t ∧
      t.call options text = (s.call options text).finish (.error fault) := by
  have hkilled := h.step (.kills hstage)
  obtain ⟨status, hended⟩ : ∃ status, Reachable host options text before
      { s with stage := .reaping fault, processes := [.ended status] } := by
    cases p with
    | running =>
      exact ⟨.signal 9 false, hkilled.step (.ends [] [] (.signal 9 false) hprocesses)⟩
    | ended status => exact ⟨status, hprocesses ▸ hkilled⟩
    | reaped => exact absurd rfl hp
  have hreaped : Reachable host options text before
      { s with stage := .clearing (.error fault), processes := [.reaped] } :=
    hended.step (.reaps rfl rfl)
  obtain ⟨t, ht, hcall⟩ := hreaped.exists_finish_of_clearing rfl
  refine ⟨t, ht, hcall.trans ?_⟩
  simp [call, Call.finish, hprocesses]

end Reachable

/--
The life is that of the call: it shows as the call, and if the call has not returned it is at the
exchange with its process.
-/
structure IsOf (options : Options) (text : List Char) (c : Call) (s : Life) : Prop where
  call_eq : s.call options text = c
  exchanging : c.result = none →
    ∃ program p, s.stage = .exchanging program ∧ s.processes = [p] ∧ p ≠ .reaped

/-- What the call would return from here is of the state it would return in. -/
theorem IsOf.of_finish {c : Call} {result : Except Fault Outcome}
    (h : t.call options text = c.finish result) : IsOf options text (c.finish result) t :=
  ⟨h, fun hnone ↦ by simp [Call.finish] at hnone⟩

namespace Reachable

/-- The start of a program leads to the state that its launch stands for. -/
theorem exists_launch (h : Reachable host options text before s) {program : String}
    (hstage : s.stage = .launching program) :
    ∃ t, Reachable host options text before t ∧ IsOf options text
      ((s.call options text).launch host program (s.scratch.map renderPath)) t := by
  -- Nothing was started before, so what is started now is the first process.
  have hnone : s.processes = [] := h.governed.early (by rw [hstage, Stage.isEarly])
  cases hcause : s.refusal? host options program with
  | some cause =>
    have hlaunch : (s.call options text).launch host program (s.scratch.map renderPath) =
        (s.call options text).finish (.error (.spawn program cause)) := by
      rw [refusal?] at hcause
      simp only [Call.launch, call, hcause]
    obtain ⟨t, ht, hcall⟩ := (h.step (.refused hstage hcause)).exists_finish_of_clearing rfl
    rw [hlaunch]
    refine ⟨t, ht, .of_finish (hcall.trans ?_)⟩
    simp [call, Call.finish]
  | none =>
    have hlaunch : (s.call options text).launch host program (s.scratch.map renderPath) =
        { s.call options text with
          started := s.processes.length + 1, process := some .running } := by
      rw [refusal?] at hcause
      simp only [Call.launch, call, hcause]
    rw [hlaunch]
    refine ⟨_, h.step (.starts hstage hcause), ?_, fun _ ↦ ⟨program, .running, rfl, ?_, ?_⟩⟩
    · simp [call, hstage]
    · rw [hnone]
    · simp

/-- A call begins as a life does. -/
theorem exists_start (host : Host) (options : Options) (text : List Char) (before : Files) :
    ∃ s, Reachable host options text before s ∧
      IsOf options text (Call.start host before options text) s := by
  have hnew : Reachable host options text before (new before) := .refl
  rw [Call.start]
  cases hprogram : host.locate? options.program with
  | none => exact ⟨_, hnew.step (.notFound rfl hprogram), .of_finish rfl⟩
  | some program =>
    have hfound := hnew.step (.found rfl hprogram)
    cases hmode : options.mode with
    | stdin =>
      rw [hmode, if_pos rfl] at hfound
      exact hfound.exists_launch rfl
    | tempFile =>
      rw [hmode, if_neg (by simp)] at hfound
      cases hscratch : host.scratch with
      | error cause => exact ⟨_, hfound.step (.noScratch rfl hscratch), .of_finish rfl⟩
      | ok path =>
        obtain ⟨t, ht, hlife⟩ :=
          ((hfound.step (.makes rfl hscratch)).step (.fills rfl rfl)).exists_launch rfl
        rw [show (new before).files = before from rfl, Keyed.set_set] at hlife
        exact ⟨t, ht, hlife⟩

/-- A fault at the exchange brings a call to its end. -/
theorem exists_fail (h : Reachable host options text before s) {fault : Fault}
    (hstep : Step host options text s { s with stage := .killing fault }) {p : ProcessState}
    (hprocesses : s.processes = [p]) (hp : p ≠ .reaped) :
    ∃ t, Reachable host options text before t ∧
      IsOf options text ((s.call options text).finish (.error fault)) t := by
  obtain ⟨t, ht, hcall⟩ := (h.step hstep).exists_finish_of_killing rfl hprocesses hp
  exact ⟨t, ht, .of_finish hcall⟩

section Exchange

variable (h : Reachable host options text before s) {program : String}
  (hstage : s.stage = .exchanging program) {p : ProcessState} (hprocesses : s.processes = [p])
  (hp : p ≠ .reaped)

include h hstage hprocesses hp

/-- A look of the host at the exchange. -/
theorem exists_look :
    ∃ t, Reachable host options text before t ∧
      IsOf options text (s.call options text).look t := by
  have hprocess : (s.call options text).process = some p := by simp [call, hprocesses]
  cases hlimit : (s.call options text).overflows with
  | true =>
    have hlook : (s.call options text).look =
        (s.call options text).finish (.error (.outputTooLarge options.outputLimit)) := by
      cases p <;> simp only [Call.look, hprocess, Call.verdict, hlimit, if_true] <;> rfl
    rw [hlook]
    exact h.exists_fail (.overflows hstage hlimit) hprocesses hp
  | false =>
    -- Below the limit the call waits for its formatter to end, and then for nothing else.
    cases p with
    | running =>
      have hlook : (s.call options text).look = s.call options text := by
        rw [Call.look, hprocess]
        simp [hlimit]
      rw [hlook]
      exact ⟨s, h, rfl, fun _ ↦ ⟨program, .running, hstage, hprocesses, hp⟩⟩
    | ended status =>
      obtain ⟨t, ht, hcall⟩ :=
        (h.step (.collects hstage hprocesses hlimit)).exists_finish_of_clearing rfl
      have hlook : (s.call options text).look =
          (s.call options text).finish ((s.call options text).verdict status) := by
        rw [Call.look, hprocess]
      rw [hlook]
      refine ⟨t, ht, .of_finish (hcall.trans ?_)⟩
      simp [call, Call.finish, hprocesses]
    | reaped => exact absurd rfl hp

/-- What a running process does of its own accord at the exchange. -/
theorem exists_act (hroom : host.HasRoom before) {event : Event} (hown : event.isOwn = true)
    (hspares : event.Spares before (sideFiles s.scratch)) :
    ∃ t, Reachable host options text before t ∧
      IsOf options text ((s.call options text).move event) t := by
  have hprocess : (s.call options text).process = some p := by simp [call, hprocesses]
  have hmove : (s.call options text).move event =
      if (s.call options text).process = some .running then (s.call options text).act event
      else s.call options text := by
    cases event with
    | prints _ | complains _ | changesFiles _ | ends _ => rfl
    | exchange | deadline | abandon => simp [Event.isOwn] at hown
  rw [hmove]
  split
  · next hrunning =>
    obtain rfl : p = .running := Option.some.inj (hprocess.symm.trans hrunning)
    have hmem : ProcessState.running ∈ s.processes := by simp [hprocesses]
    cases event with
    | prints bytes =>
      exact ⟨_, h.step (.prints bytes hmem), rfl, fun _ ↦ ⟨program, _, hstage, hprocesses, hp⟩⟩
    | complains bytes =>
      exact ⟨_, h.step (.complains bytes hmem), rfl, fun _ ↦ ⟨program, _, hstage, hprocesses, hp⟩⟩
    | changesFiles files =>
      have hcontained := h.contained hroom
      -- The event spares the files that the call found, and those it finds now differ only in what
      -- is set aside.
      have hspares' : (Event.changesFiles files).Spares s.files (sideFiles s.scratch) :=
        ⟨fun path hpath ↦ (hspares.1 path hpath).trans (hcontained.outside path hpath).symm,
          fun path hpath ↦ by
            rw [hspares.2 path hpath, hroom path (hcontained.aside hpath)]
            simpa using hcontained.noDirectory path hpath⟩
      exact ⟨_, h.step (.changes files hmem hspares'), rfl,
        fun _ ↦ ⟨program, _, hstage, hprocesses, hp⟩⟩
    | ends status =>
      refine ⟨_, h.step (.ends [] [] status hprocesses), ?_,
        fun _ ↦ ⟨program, .ended status, hstage, rfl, by simp⟩⟩
      simp [call, Call.act, hprocesses]
    | exchange | deadline | abandon => simp [Event.isOwn] at hown
  -- A process that has ended does nothing more.
  · exact ⟨s, h, rfl, fun _ ↦ ⟨program, p, hstage, hprocesses, hp⟩⟩

end Exchange

/-- **What an event does to a call, a life can come to.** -/
theorem exists_step (hroom : host.HasRoom before) (h : Reachable host options text before s)
    {c : Call} (hlife : IsOf options text c s) {event : Event}
    (hspares : event.Spares before (sideFiles c.scratch)) :
    ∃ t, Reachable host options text before t ∧ IsOf options text (c.step event) t := by
  obtain ⟨rfl, hexchanging⟩ := hlife
  rw [Call.step]
  split
  · exact ⟨s, h, rfl, hexchanging⟩
  · next hresult =>
    obtain ⟨program, p, hstage, hprocesses, hp⟩ := hexchanging (by simpa using hresult)
    cases event with
    | exchange => exact h.exists_look hstage hprocesses hp
    | deadline => exact h.exists_fail (.deadline hstage) hprocesses hp
    | abandon => exact h.exists_fail (.abandon hstage) hprocesses hp
    | prints _ | complains _ | changesFiles _ | ends _ =>
      exact h.exists_act hstage hprocesses hp hroom rfl hspares

/-- **Every run of a call is a life.** -/
theorem exists_run (hroom : host.HasRoom before) (h : Reachable host options text before s)
    {c : Call} (hlife : IsOf options text c s) {events : List Event}
    (hspares : ∀ event ∈ events, event.Spares before (sideFiles c.scratch)) :
    ∃ t, Reachable host options text before t ∧ IsOf options text (c.run events) t := by
  induction events generalizing c s with
  | nil => exact ⟨s, h, hlife⟩
  | cons event events ih =>
    rw [List.forall_mem_cons] at hspares
    obtain ⟨t, ht, hstep⟩ := h.exists_step hroom hlife hspares.1
    have hscratch := (Call.step_request (c := c) event).2.2
    rw [Call.run_cons]
    exact ih ht hstep (hscratch ▸ hspares.2)

end Reachable

/--
**A call starts one process at most and leaves neither that nor a file behind.** Whatever order its
acts, those of its process and those of its caller come in: there is never more than one process,
and when the call has returned, with whatever result, the process has been reaped and there is
neither a scratch file nor a backup of one. Without a program nothing is made or started, and
without a scratch file that holds the document no process is started.

A scratch file is made where nothing is, and nothing is where its backup would be. Every run of a
`Call` is a life of this kind.
-/
theorem reachable_leaves_nothing_behind (host : Host) (options : Options) (text : List Char)
    (before : Files) (hroom : host.HasRoom before) :
    (∀ s, Reachable host options text before s →
      s.processes.length ≤ 1 ∧
      (∀ result, s.stage = .returned result → (∀ p ∈ s.processes, p = .reaped) ∧
        (∀ side ∈ host.sideFiles, s.files.get? side = none) ∧ s.files.Same before) ∧
      (host.locate? options.program = none → s.processes = [] ∧ s.files = before) ∧
      (∀ cause, options.mode = .tempFile → host.scratch = .error cause → s.processes = []) ∧
      ∀ cause, s.stage = .returned (.error (.scratch cause)) → s.processes = []) ∧
    ∀ events, (∀ event ∈ events,
        event.Spares before (sideFiles (Call.start host before options text).scratch)) →
      ∃ s, Reachable host options text before s ∧
        s.call options text = (Call.start host before options text).run events := by
  refine ⟨fun s h ↦ ⟨h.governed.length_le, fun result hstage ↦ ?_, fun hprogram ↦ ?_,
    fun cause hmode hscratch ↦ ?_, fun cause hstage ↦ ?_⟩, fun events hspares ↦ ?_⟩
  · obtain ⟨hreaped, hsame⟩ := h.returned hroom hstage
    exact ⟨hreaped, fun side hside ↦ (hsame side).trans (hroom side hside), hsame⟩
  · exact h.untouched (.inl hprogram)
  · exact (h.untouched (.inr ⟨hmode, cause, hscratch⟩)).1
  · exact h.governed.unfilled cause (by rw [hstage, Stage.result?])
  · obtain ⟨s, h, hlife⟩ := Reachable.exists_start host options text before
    obtain ⟨t, ht, hrun⟩ := h.exists_run hroom hlife hspares
    exact ⟨t, ht, hrun.call_eq⟩

/-- A process that is abandoned writes a backup before it dies. -/
theorem reachable_leaves_nothing_behind_late_backup :
    let host : Host :=
      { locate? := fun _ ↦ some "/bin/fmt", scratch := .ok ["tmp", "x.ron"]
        refusal? := fun _ _ ↦ none, behaviour := fun _ _ _ _ ↦ [] }
    let options : Options := { mode := .tempFile }
    ∃ s, Reachable host options ['1'] .empty s ∧ s.stage = .returned (.error .cancelled) ∧
      s.processes = [.reaped] ∧ s.files.get? ["tmp", "x.ron.bak"] = none := by
  intro host options
  have hroom : host.HasRoom .empty := fun _ _ ↦ rfl
  have hsides : host.sideFiles = [["tmp", "x.ron"], ["tmp", "x.ron.bak"]] := by decide +kernel
  let copy : Files := Keyed.empty.set ["tmp", "x.ron"] (.file (Text.encode ['1']))
  let both : Files := copy.set ["tmp", "x.ron.bak"] (.file [])
  have hboth : (Event.changesFiles both).Spares copy host.sideFiles := by
    rw [hsides]
    refine ⟨fun path hpath ↦ ?_, fun path hpath ↦ ?_⟩
    · rw [Keyed.get?_set, if_neg]
      rintro rfl
      simp at hpath
    · rw [Keyed.get?_set, Keyed.get?_set]
      split
      · simp
      · split <;> simp
  have hnew : Reachable host options ['1'] .empty (new .empty) := .refl
  have hfilled := ((hnew.step (.found rfl rfl)).step (.makes rfl rfl)).step (.fills rfl rfl)
  have hstarted := hfilled.step (.starts rfl (by decide +kernel))
  have hkilled := (hstarted.step (.abandon rfl)).step (.kills rfl)
  have hwritten := hkilled.step (.changes both List.mem_cons_self hboth)
  have hreaped := (hwritten.step (.ends [] [] (.signal 9 false) rfl)).step (.reaps rfl rfl)
  have hreturned := (hreaped.step (.clears rfl rfl)).step (.unlinks rfl rfl)
  obtain ⟨hlives, -⟩ := reachable_leaves_nothing_behind host options ['1'] .empty hroom
  obtain ⟨-, hclean, -⟩ := hlives _ hreturned
  obtain ⟨-, hnone, -⟩ := hclean _ rfl
  exact ⟨_, hreturned, rfl, rfl, hnone _ (by simp [hsides])⟩

end Life

end Formatter

end RonWorkbench
