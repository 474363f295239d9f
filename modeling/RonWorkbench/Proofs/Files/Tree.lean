import RonWorkbench.Files
import RonWorkbench.Proofs.Fallible

/-!
# Trees of files

What its paths lead to is all that can be seen of a tree (`Files.Same`), in whatever order its
entries stand. Where a written path leads depends on less, the shape of the tree
(`Files.SameShape`), which a file in place of a file leaves. A tree that has lost a file
(`Files.Loses`) is another tree, but its directories are the same ones, so paths still lead where
they led.

What can be read can be written as far as the tree goes (`Files.target_of_resolve`), for the
directory above it was passed on the way; what a write then does is up to the disk
(`Files.write_of_target`).
-/

namespace RonWorkbench

/-- A key has a value just if it stands in some entry. -/
theorem Keyed.isSome_get?_iff {κ α : Type} [DecidableEq κ] {table : Keyed κ α} {key : κ} :
    (table.get? key).isSome ↔ ∃ entry ∈ table.entries, entry.1 = key := by
  simp [Keyed.get?]

namespace Files

open Fallible

/-- Every path leads to the same in both trees. -/
def Same (a b : Files) : Prop :=
  ∀ path, a.get? path = b.get? path

theorem Same.refl (files : Files) : files.Same files :=
  fun _ ↦ rfl

/-! ### Directories -/

/-- Something is below a path if a longer path leads to it. -/
theorem hasBelow_iff {files : Files} {path : Path} :
    files.hasBelow path = true ↔ ∃ p, (files.get? p).isSome ∧ path <+: p ∧ p ≠ path := by
  simp only [hasBelow, List.any_eq_true, Bool.and_eq_true, List.isPrefixOf_iff_prefix, bne_iff_ne,
    Keyed.isSome_get?_iff]
  constructor
  · rintro ⟨entry, hmem, hbelow, hne⟩
    exact ⟨entry.1, ⟨entry, hmem, rfl⟩, hbelow, hne⟩
  · rintro ⟨p, ⟨entry, hmem, rfl⟩, hbelow, hne⟩
    exact ⟨entry, hmem, hbelow, hne⟩

/-- A directory is the root, or has something below it, or is one of its own. -/
theorem isDirectory_iff {files : Files} {path : Path} :
    files.isDirectory path = true ↔
      path = [] ∨ files.hasBelow path = true ∨ files.get? path = some .directory := by
  simp [isDirectory, or_assoc]

/-- What is above a directory is a directory. -/
theorem isDirectory_of_prefix {files : Files} {above path : Path} (hinside : above <+: path)
    (h : files.isDirectory path = true) : files.isDirectory above = true := by
  by_cases hne : path = above
  · rwa [← hne]
  refine isDirectory_iff.2 ?_
  rcases isDirectory_iff.1 h with rfl | hbelow | hentry
  · exact .inl (List.prefix_nil.1 hinside)
  · obtain ⟨p, hp, hpath, -⟩ := hasBelow_iff.1 hbelow
    refine .inr (.inl (hasBelow_iff.2 ⟨p, hp, hinside.trans hpath, ?_⟩))
    rintro rfl
    exact hne (hpath.eq_of_length_le hinside.length_le)
  · exact .inr (.inl (hasBelow_iff.2 ⟨path, by simp [hentry], hinside, hne⟩))

/-- The path above a directory leads to a directory. -/
theorem isDirectory_dropLast {files : Files} {path : Path} (h : files.isDirectory path = true) :
    files.isDirectory path.dropLast = true :=
  isDirectory_of_prefix (List.dropLast_prefix path) h

/-- A file in a directory makes no other directory of the tree. -/
theorem isDirectory_set {files : Files} {path : Path} (hpath : files.isDirectory path = false)
    (habove : files.isDirectory path.dropLast = true) (content : List UInt8) (other : Path) :
    isDirectory (files.set path (.file content)) other = files.isDirectory other := by
  have hget (p : Path) := Keyed.get?_set files path p (.file content)
  rw [Bool.eq_iff_iff]
  constructor
  · intro h
    rcases isDirectory_iff.1 h with rfl | hbelow | hentry
    · rfl
    -- What is above the new file is above its directory as well, which was there before.
    · obtain ⟨p, hp, hprefix, hne⟩ := hasBelow_iff.1 hbelow
      rw [hget] at hp
      split at hp
      · next heq =>
        subst heq
        obtain ⟨rest, rfl⟩ := hprefix
        have hrest : rest ≠ [] := by
          rintro rfl
          exact hne (List.append_nil other)
        rw [List.dropLast_append_of_ne_nil hrest] at habove
        exact isDirectory_of_prefix (List.prefix_append other _) habove
      · exact isDirectory_iff.2 (.inr (.inl (hasBelow_iff.2 ⟨p, hp, hprefix, hne⟩)))
    · rw [hget] at hentry
      split at hentry
      · simp at hentry
      · exact isDirectory_iff.2 (.inr (.inr hentry))
  · intro h
    -- The new file takes no directory away, for there was none in its place.
    have hother : other ≠ path := by
      rintro rfl
      simp [hpath] at h
    rcases isDirectory_iff.1 h with rfl | hbelow | hentry
    · rfl
    · obtain ⟨p, hp, hprefix, hne⟩ := hasBelow_iff.1 hbelow
      refine isDirectory_iff.2 (.inr (.inl (hasBelow_iff.2 ⟨p, ?_, hprefix, hne⟩)))
      rw [hget]
      split
      · rfl
      · exact hp
    · exact isDirectory_iff.2 (.inr (.inr (by rw [hget, if_neg hother, hentry])))

/-- The same paths lead somewhere in both trees, and the same to directories. -/
structure SameShape (a b : Files) : Prop where
  isSome_eq : ∀ path, (a.get? path).isSome = (b.get? path).isSome
  directory_iff : ∀ path, a.get? path = some .directory ↔ b.get? path = some .directory

/-- A file in place of a file leaves the shape. -/
theorem sameShape_set {files : Files} {path : Path} {old : List UInt8}
    (h : files.get? path = some (.file old)) (content : List UInt8) :
    SameShape (files.set path (.file content)) files := by
  constructor <;> intro other <;> rw [Keyed.get?_set] <;> split
  · next heq => simp [heq, h]
  · rfl
  · next heq => simp [heq, h]
  · rfl

section Shape

variable {a b : Files} (h : a.SameShape b)

include h

/-- Trees of one shape have the same directories. -/
theorem SameShape.isDirectory_eq (path : Path) : a.isDirectory path = b.isDirectory path := by
  rw [Bool.eq_iff_iff, isDirectory_iff, isDirectory_iff, hasBelow_iff, hasBelow_iff,
    h.directory_iff path]
  simp only [h.isSome_eq _]

/-- Paths lead the same way through trees of one shape. -/
theorem SameShape.resolve_eq (here : Path) (written : String) :
    a.resolve here written = b.resolve here written := by
  have henter : a.enter = b.enter := by
    funext here name
    rw [enter, enter, h.isDirectory_eq, h.isSome_eq]
  rw [resolve, resolve, henter]

end Shape

/-! ### Written paths -/

/-- A step is taken from a directory, with a name that is not too long. -/
theorem enter_eq_ok {files : Files} {here path : Path} {name : String}
    (h : files.enter here name = .ok path) :
    files.isDirectory here = true ∧ path = step here name := by
  unfold enter at h
  split at h
  · simp at h
  · split at h
    · simp at h
    · next hdirectory =>
      rw [Except.ok.injEq] at h
      exact ⟨by simpa using hdirectory, h.symm⟩

/-- Where a path leads, if it leads anywhere, is told from the directories on the way. -/
theorem resolve_eq_ok_congr {a b : Files} (h : ∀ path, a.isDirectory path = b.isDirectory path)
    {here path : Path} {written : String} :
    a.resolve here written = .ok path ↔ b.resolve here written = .ok path := by
  have henter (here path : Path) (name : String) :
      a.enter here name = .ok path ↔ b.enter here name = .ok path := by
    rw [enter, enter, h]
    split
    · rfl
    · split <;> simp
  -- By induction on the names: each step into a directory asks only whether it is one.
  have hnames (names : List String) (start : Path) :
      names.foldlM a.enter start = .ok path ↔ names.foldlM b.enter start = .ok path := by
    induction names generalizing start with
    | nil => rfl
    | cons name names ih =>
      rw [List.foldlM_cons, List.foldlM_cons, bind_eq_ok, bind_eq_ok]
      exact exists_congr fun next ↦ and_congr (henter start next name) (ih next)
  rw [resolve, resolve]
  split
  · rfl
  · split
    · rfl
    · exact hnames _ _

theorem cut_ne_nil (text : List Char) : names.cut text ≠ [] := by
  cases text with
  | nil => simp [names.cut]
  | cons c rest =>
    rw [names.cut]
    split
    · simp
    · split <;> simp

/-- The directory above the last name was passed on the way, unless a directory is at the end. -/
theorem isDirectory_dropLast_of_resolve {files : Files} {here path : Path} {written : String}
    (h : files.resolve here written = .ok path) (hpath : files.isDirectory path = false) :
    files.isDirectory path.dropLast = true := by
  unfold resolve at h
  split at h
  · simp at h
  · split at h
    · simp at h
    · obtain ⟨ns, last, hnames⟩ : ∃ ns last, names written = ns ++ [last] := by
        rcases List.eq_nil_or_concat (names written) with hnil | ⟨ns, last, hconcat⟩
        · exact absurd (List.map_eq_nil_iff.1 hnil) (cut_ne_nil _)
        · exact ⟨ns, last, by rw [hconcat, List.concat_eq_append]⟩
      rw [hnames, List.foldlM_append] at h
      obtain ⟨above, -, h⟩ := bind_eq_ok.1 h
      rw [List.foldlM_cons] at h
      obtain ⟨next, hlast, h⟩ := bind_eq_ok.1 h
      obtain rfl : next = path := pure_eq_ok.1 h
      obtain ⟨habove, rfl⟩ := enter_eq_ok hlast
      -- a name that leads nowhere, or back up, would have led to a directory
      unfold step at hpath ⊢
      split
      · simp_all
      · split
        · have := isDirectory_dropLast habove
          simp_all
        · rwa [List.dropLast_concat]

/-! ### Reading and writing -/

/-- What is read is the content of the file at the end of the path. -/
theorem read_eq_ok_iff {files : Files} {here : Path} {written : String} {content : List UInt8} :
    files.read here written = .ok content ↔
      ∃ path, files.resolve here written = .ok path ∧ files.get? path = some (.file content) := by
  rw [read, bind_eq_ok]
  refine exists_congr fun path ↦ and_congr_right fun _ ↦ ?_
  split
  · next found hfound => simp [hfound]
  · next hfound =>
    have hne : files.get? path ≠ some (.file content) := fun hfile ↦ hfound content hfile
    split <;> simp [hne]

/-- A file is written where the path leads, if no directory is there and one is above. -/
theorem target_eq_ok_iff {files : Files} {here path : Path} {written : String} :
    files.target here written = .ok path ↔
      files.resolve here written = .ok path ∧ files.isDirectory path = false ∧
        files.isDirectory path.dropLast = true := by
  rw [target, bind_eq_ok]
  constructor
  · rintro ⟨place, hresolve, h⟩
    cases hplace : files.isDirectory place with
    | true => simp [hplace] at h
    | false =>
      cases habove : files.isDirectory place.dropLast with
      | false => simp [hplace, habove] at h
      | true =>
        obtain rfl : place = path := by simpa [hplace, habove, pure_eq_ok] using h
        exact ⟨hresolve, hplace, habove⟩
  · rintro ⟨hresolve, hpath, habove⟩
    exact ⟨path, hresolve, by simp [hpath, habove, pure_eq_ok]⟩

/-- What is no directory can be written, as far as the tree goes. -/
theorem target_of_resolve {files : Files} {here path : Path} {written : String}
    (h : files.resolve here written = .ok path) (hpath : files.isDirectory path = false) :
    files.target here written = .ok path :=
  target_eq_ok_iff.2 ⟨h, hpath, isDirectory_dropLast_of_resolve h hpath⟩

/-- What a write does where it can be made: the disk decides. -/
theorem write_of_target {files : Files} {here path : Path} {written : String}
    (h : files.target here written = .ok path) (disk : Disk) (content : List UInt8) :
    files.write disk here written content =
      match disk path content with
      | none => (.ok (), files.set path (.file content))
      | some (.refused fault) => (.error fault, files)
      | some (.cutShort fault length) =>
        (.error fault, files.set path (.file (content.take length))) := by
  cases hdisk : disk path content with
  | none => simp only [write, h, hdisk]
  | some hindrance => cases hindrance <;> simp only [write, h, hdisk]

/-- **What a write leaves.** All but the file at the end of the path is as it was. -/
theorem get?_of_write {files : Files} {here path : Path} {written : String}
    (h : files.target here written = .ok path) (disk : Disk) (content : List UInt8)
    (other : Path) :
    (files.write disk here written content).2.get? other =
      if other = path then
        match disk path content with
        | none => some (.file content)
        | some (.refused _) => files.get? path
        | some (.cutShort _ length) => some (.file (content.take length))
      else files.get? other := by
  rw [write_of_target h]
  rcases disk path content with _ | fault | ⟨fault, length⟩
  · exact Keyed.get?_set files path other _
  · by_cases hother : other = path
    · simp [hother]
    · simp [hother]
  · exact Keyed.get?_set files path other _

/-! ### Trees that lose a file -/

/-- The files are those from before, or they are so but for a file at the place, which is gone. -/
def Loses (before : Files) (place? : Option Path) (after : Files) : Prop :=
  ∀ path, after.get? path = before.get? path ∨
    place? = some path ∧ (∃ content, before.get? path = some (.file content)) ∧
      after.get? path = none

section Loses

variable {before after : Files} {place? : Option Path}

/-- A tree that is the same has lost nothing, wherever something might have been lost. -/
theorem Same.loses (h : after.Same before) (place? : Option Path) : before.Loses place? after :=
  fun path ↦ .inl (h path)

theorem Loses.trans {later : Files} (h : before.Loses place? after)
    (hlater : after.Loses place? later) : before.Loses place? later := by
  intro path
  rcases hlater path with heq | ⟨hplace, ⟨content, hcontent⟩, hnone⟩
  · rw [heq]
    exact h path
  · rcases h path with hsame | ⟨-, -, hgone⟩
    · exact .inr ⟨hplace, ⟨content, hsame ▸ hcontent⟩, hnone⟩
    · simp [hgone] at hcontent

/-- Where something is, it was there before. -/
theorem Loses.get?_of_isSome (h : before.Loses place? after) {path : Path}
    (hpath : (after.get? path).isSome) : after.get? path = before.get? path :=
  (h path).resolve_right fun ⟨_, _, hnone⟩ ↦ by simp [hnone] at hpath

theorem Loses.get?_of_ne (h : before.Loses place? after) {path : Path} (hne : place? ≠ some path) :
    after.get? path = before.get? path :=
  (h path).resolve_right fun ⟨hplace, _⟩ ↦ hne hplace

/-- The same file put into both trees is lost from neither. -/
theorem Loses.set (h : before.Loses place? after) (path : Path) (entry : Entry) :
    Loses (before.set path entry) place? (after.set path entry) := by
  intro other
  rw [Keyed.get?_set, Keyed.get?_set]
  split
  · exact .inl rfl
  · exact h other

variable (h : before.Loses place? after)
  (habove : ∀ place ∈ place?, before.get? place.dropLast = some .directory)

include h habove

/-- The directories stay, the one that the lost file was in among them. -/
theorem Loses.isDirectory_eq (path : Path) : after.isDirectory path = before.isDirectory path := by
  have hdirectory {p : Path} (hp : before.get? p = some .directory) :
      after.get? p = some .directory := by
    rcases h p with heq | ⟨-, ⟨content, hcontent⟩, -⟩
    · exact heq.trans hp
    · simp [hp] at hcontent
  rw [Bool.eq_iff_iff]
  constructor
  · intro hpath
    rcases isDirectory_iff.1 hpath with rfl | hbelow | hentry
    · rfl
    · obtain ⟨p, hp, hprefix, hne⟩ := hasBelow_iff.1 hbelow
      rw [h.get?_of_isSome hp] at hp
      exact isDirectory_iff.2 (.inr (.inl (hasBelow_iff.2 ⟨p, hp, hprefix, hne⟩)))
    · rw [h.get?_of_isSome (by simp [hentry])] at hentry
      exact isDirectory_iff.2 (.inr (.inr hentry))
  · intro hpath
    rcases isDirectory_iff.1 hpath with rfl | hbelow | hentry
    · rfl
    · obtain ⟨p, hp, hprefix, hne⟩ := hasBelow_iff.1 hbelow
      rcases h p with heq | ⟨hplace, -, -⟩
      · rw [← heq] at hp
        exact isDirectory_iff.2 (.inr (.inl (hasBelow_iff.2 ⟨p, hp, hprefix, hne⟩)))
      · -- what is above the lost file is above its directory, or is that directory
        obtain ⟨rest, rfl⟩ := hprefix
        have hrest : rest ≠ [] := by
          rintro rfl
          exact hne (List.append_nil path)
        have hkept := hdirectory (habove _ hplace)
        rw [List.dropLast_append_of_ne_nil hrest] at hkept
        exact isDirectory_of_prefix (List.prefix_append path _)
          (isDirectory_iff.2 (.inr (.inr hkept)))
    · exact isDirectory_iff.2 (.inr (.inr (hdirectory hentry)))

/-- Paths lead where they led before. -/
theorem Loses.resolve_eq_ok_iff {here path : Path} {written : String} :
    after.resolve here written = .ok path ↔ before.resolve here written = .ok path :=
  resolve_eq_ok_congr (h.isDirectory_eq habove)

/-- What can be read could be read before. -/
theorem Loses.read_eq_ok {here : Path} {written : String} {content : List UInt8}
    (hread : after.read here written = .ok content) :
    before.read here written = .ok content := by
  obtain ⟨path, hresolve, hget⟩ := read_eq_ok_iff.1 hread
  rw [h.get?_of_isSome (by simp [hget])] at hget
  exact read_eq_ok_iff.2 ⟨path, (h.resolve_eq_ok_iff habove).1 hresolve, hget⟩

/-- What could be written can be written. -/
theorem Loses.target_eq_ok_iff {here path : Path} {written : String} :
    after.target here written = .ok path ↔ before.target here written = .ok path := by
  rw [Files.target_eq_ok_iff, Files.target_eq_ok_iff, h.resolve_eq_ok_iff habove,
    h.isDirectory_eq habove, h.isDirectory_eq habove]

end Loses

end Files

end RonWorkbench
