import RonWorkbench.CommandLine.Reading
import RonWorkbench.Proofs.Settings.Flags

/-!
# The flags of a command line fit

Settings keep their counts in 32 bits, and so does whatever the words of a line say on the way to a
request: each act of the reader keeps that (`Draft.put_fit` and what follows), so a reading of all
the words does (`readDraft_fit`). The settings of a request are therefore those of its files with
its flags in place (`load_of_read`).
-/

namespace RonWorkbench.CommandLine

open Fallible Settings

theorem readCount_lt {flag : Flag} {value : String} {n : Nat}
    (h : readCount flag value = .ok n) : n < Bits.wordCount 32 := by
  rw [readCount] at h
  split at h
  · split at h
    · next hrange =>
      obtain rfl := Except.ok.inj h
      exact Nat.lt_of_le_pred (Bits.wordCount_pos 32) (Int.toNat_le.2 hrange.2)
    · simp at h
  · simp at h

/-! ### One option -/

section Draft

variable {d e : Draft} {flag : Flag} {value : String}

/-- A value that is put keeps the flags fit: this is the only place where counts come in. -/
theorem Draft.put_fit (h : d.flags.Fit) (hput : d.put flag value = .ok e) : e.flags.Fit := by
  cases flag with
  | help | version | rewrite | check | config =>
    obtain rfl := Except.ok.inj hput
    exact h
  | formatter | stdinMode =>
    obtain rfl := Except.ok.inj hput
    exact ⟨h.tabSize_lt, h.maxWidth_lt⟩
  | listing =>
    obtain ⟨listing, -, hlisting⟩ := bind_eq_ok.1 hput
    obtain rfl := pure_eq_ok.1 hlisting
    exact h
  -- Counts are bounded where they are read.
  | tabSize =>
    obtain ⟨n, hcount, hn⟩ := bind_eq_ok.1 hput
    obtain rfl := pure_eq_ok.1 hn
    exact ⟨by simpa using readCount_lt hcount, h.maxWidth_lt⟩
  | maxWidth =>
    obtain ⟨n, hcount, hn⟩ := bind_eq_ok.1 hput
    obtain rfl := pure_eq_ok.1 hn
    exact ⟨h.tabSize_lt, by simpa using readCount_lt hcount⟩

theorem Draft.give_fit (h : d.flags.Fit) (hgive : d.give flag value = .ok e) : e.flags.Fit := by
  rw [give] at hgive
  split at hgive
  · simp at hgive
  · exact put_fit h hgive

end Draft

/-! ### One word -/

namespace Reading

variable {topic : Topic} {r next : Reading} {flag : Flag} (h : r.draft.flags.Fit)

include h

/-- A flag that waits for a value is settled without one. -/
theorem settle_fit (hsettle : r.settle = .ok next) : next.draft.flags.Fit := by
  rw [settle] at hsettle
  split at hsettle
  · obtain rfl := Except.ok.inj hsettle
    exact h
  · simp [fail] at hsettle
  · obtain ⟨draft, hgive, hnext⟩ := bind_eq_ok.1 hsettle
    obtain rfl := pure_eq_ok.1 hnext
    exact Draft.give_fit h (mapError_eq_ok.1 hgive)

/-- A value attached to its flag is given to it. -/
theorem takeAttached_fit {value : String} (htake : r.takeAttached flag value = .ok next) :
    next.draft.flags.Fit := by
  obtain ⟨settled, hsettle, htake⟩ := bind_eq_ok.1 htake
  obtain ⟨draft, hgive, hnext⟩ := bind_eq_ok.1 htake
  obtain rfl := pure_eq_ok.1 hnext
  have hsettled := settle_fit h hsettle
  exact Draft.give_fit hsettled (mapError_eq_ok.1 hgive)

/-- A switch that does not end the reading is given as if an empty value were attached. -/
theorem takeSwitch_fit (htake : r.takeSwitch topic flag = .ok next) : next.draft.flags.Fit := by
  obtain ⟨settled, hsettle, htake⟩ := bind_eq_ok.1 htake
  cases flag with
  | help | version => simp at htake
  | _ =>
    have hattached : r.takeAttached _ "" = .ok next := bind_eq_ok.2 ⟨settled, hsettle, htake⟩
    exact takeAttached_fit h hattached

theorem await_fit (hawait : r.await flag = .ok next) : next.draft.flags.Fit := by
  obtain ⟨settled, hsettle, hnext⟩ := bind_eq_ok.1 hawait
  obtain rfl := pure_eq_ok.1 hnext
  have hsettled := settle_fit h hsettle
  exact hsettled

/-- A long flag is a switch, has its value attached, or waits for it. -/
theorem takeLong_fit {word name : String} {value : Option String}
    (htake : r.takeLong topic word name value = .ok next) : next.draft.flags.Fit := by
  rw [takeLong] at htake
  split at htake
  · simp [fail] at htake
  · split at htake
    · exact takeAttached_fit h htake
    · exact await_fit h htake
    · simp [fail] at htake
    · exact takeSwitch_fit h htake

/-- Letters are read one by one, up to the first that takes a value. -/
theorem takeLetters_fit {letters : List Char}
    (htake : r.takeLetters topic letters = .ok next) : next.draft.flags.Fit := by
  induction letters generalizing r with
  | nil =>
    obtain rfl := Except.ok.inj htake
    exact h
  | cons c rest ih =>
    rw [takeLetters] at htake
    split at htake
    · simp [fail] at htake
    · split at htake
      · split at htake
        · exact await_fit h htake
        · exact takeAttached_fit h htake
        · exact takeAttached_fit h htake
      · obtain ⟨switched, hswitch, htake⟩ := bind_eq_ok.1 htake
        exact ih (takeSwitch_fit h hswitch) htake

theorem takePlain_fit {word : String} (htake : r.takePlain word = .ok next) :
    next.draft.flags.Fit := by
  rw [takePlain] at htake
  split at htake
  · obtain rfl := Except.ok.inj htake
    exact h
  · simp [fail] at htake
  · obtain ⟨settled, hsettle, hnext⟩ := bind_eq_ok.1 htake
    obtain rfl := pure_eq_ok.1 hnext
    have hsettled := settle_fit h hsettle
    exact hsettled

/-- **A word keeps the flags in bounds.** -/
theorem take_fit {word : String} (htake : r.take topic word = .ok next) :
    next.draft.flags.Fit := by
  rw [take] at htake
  split at htake
  · exact takePlain_fit h htake
  · split at htake
    · obtain rfl := Except.ok.inj htake
      exact h
    · exact takeLong_fit h htake
    · exact takeLetters_fit h htake
    · exact takePlain_fit h htake

/-- Words taken one behind the other keep the flags fit. -/
theorem foldlM_take_fit {words : List String}
    (hwords : words.foldlM (take topic) r = .ok next) : next.draft.flags.Fit := by
  induction words generalizing r with
  | nil =>
    obtain rfl := pure_eq_ok.1 hwords
    exact h
  | cons word words ih =>
    obtain ⟨middle, htake, hwords⟩ := bind_eq_ok.1 hwords
    exact ih (take_fit h htake) hwords

end Reading

/-! ### A line -/

/-- A whole line that is read leaves fit flags, for none are given at first. -/
theorem readDraft_fit {topic : Topic} {words : List String} {d : Draft}
    (h : readDraft topic words = .ok d) : d.flags.Fit := by
  obtain ⟨r, hwords, h⟩ := bind_eq_ok.1 h
  obtain ⟨settled, hsettle, h⟩ := bind_eq_ok.1 h
  obtain rfl := pure_eq_ok.1 h
  have hnone : ({} : Reading).draft.flags.Fit := ⟨by simp, by simp⟩
  exact Reading.settle_fit (Reading.foldlM_take_fit hnone hwords) hsettle

/-- A request is made of what the line was read as. -/
theorem readFormat_fit {words : List String} {request : FormatRequest}
    (h : readFormat words = .ok (.format request)) : request.flags.Fit := by
  obtain ⟨d, hdraft, h⟩ := bind_eq_ok.1 h
  have hfit := readDraft_fit hdraft
  cases hboth : d.rewrite && d.check with
  | true => simp [hboth, throw, throwThe, MonadExceptOf.throw, bind, Except.bind] at h
  | false =>
    rw [hboth] at h
    cases hpath : d.path with
    | none => simp [hpath] at h
    | some path =>
      rw [hpath] at h
      obtain rfl := Invocation.format.inj (pure_eq_ok.1 h)
      exact hfit

/-- Only one word is the command of formatting. -/
theorem Topic.eq_of_ofCommand?_eq_format {word : String} (h : ofCommand? word = some .format) :
    word = "format" := by
  rw [ofCommand?.eq_def] at h
  split at h
  · simp at h
  · rfl
  · simp at h
  · simp at h

/-- A line that is read as a request begins with the command that formats. -/
theorem readLine_eq_format {words : List String} {request : FormatRequest}
    (h : readLine words = .ok (.format request)) :
    ∃ rest, words = "format" :: rest ∧ readFormat rest = .ok (.format request) := by
  cases words with
  | nil => simp [readLine] at h
  | cons word rest =>
    rw [readLine] at h
    -- All other commands are read as something else or fail.
    split at h
    · obtain ⟨d, -, h⟩ := bind_eq_ok.1 h
      split at h <;> simp at h
    · next hword => exact ⟨rest, by rw [Topic.eq_of_ofCommand?_eq_format hword], h⟩
    · unfold readHelp at h
      split at h
      · simp at h
      · split at h <;> simp at h
      · simp at h
    · unfold readTool at h
      split at h
      · split at h
        · simp at h
        · split at h <;> simp at h
      · simp at h
      · obtain ⟨_, -, h⟩ := bind_eq_ok.1 h
        simp at h

/-- **The flags of a request fit.** -/
theorem read_fit {words : List String} {request : FormatRequest}
    (h : read words = .ok (.format request)) : request.flags.Fit := by
  rw [read] at h
  split at h
  · next invocation hline =>
    obtain rfl := Except.ok.inj h
    obtain ⟨rest, -, hformat⟩ := readLine_eq_format hline
    exact readFormat_fit hformat
  all_goals simp at h

/-- **The settings of a request are those of its files with its flags in place.** -/
theorem load_of_read {words : List String} {request : FormatRequest} {files : Files} {here : Path}
    {order : Order} {c : Configuration} (h : read words = .ok (.format request))
    (htable : HasFormatterTable order files here request.config)
    (hload : loadForCommand files here request.config {} order = .ok c) :
    loadForCommand files here request.config request.flags order =
      .ok { c with formatter := request.flags.apply c.formatter } :=
  loadForCommand_flags hload htable (read_fit h)

end RonWorkbench.CommandLine
