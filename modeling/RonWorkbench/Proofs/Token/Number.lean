import Mathlib.Computability.Language
import RonWorkbench.Proofs.Stack.Reachable
import RonWorkbench.Proofs.Token.Inside

/-!
# Tokens of numbers

The numbers of a family are a language (`Number.literal`), put together from signs, marks and runs
of digits, and nothing in it says how a number is read. The scan reads the parts one behind the
other and never goes back. It reads the longest number all the same, for a word of one part that
could be longer is followed by a character with which no word of the next part begins
(`Number.Munches.append`).

With a base letter a number belongs to one family only, and the decimal one is left for what starts
with none of these (`Number.IsMunched`). So what a token of the line is told to be is what the
grammar says of the rest of the line (`Number.tokenizeLine_munches`).
-/

namespace RonWorkbench

namespace Number

/-! ### The numbers of a family -/

/-- A digit of the family or an underscore. -/
def inRun (family : NumberFamily) (c : Char) : Bool :=
  family.isDigit c || c == '_'

/-- A digit, then digits and underscores. -/
def run (family : NumberFamily) : Language Char :=
  {w | ∃ digit more, family.isDigit digit ∧ (∀ c ∈ more, inRun family c) ∧ w = digit :: more}

/-- Underscores, or nothing. -/
def underscores : Language Char :=
  {w | ∀ c ∈ w, c = '_'}

/-- An optional minus. -/
def minus : Language Char :=
  1 + {['-']}

/-- An optional point with a run behind it. -/
def fraction : Language Char :=
  1 + {['.']} * run .decimal

/-- An optional exponent mark with a run behind it, which may have a sign. -/
def exponent : Language Char :=
  1 + {['e'], ['E']} * ((1 + {['+'], ['-']}) * run .decimal)

/-- A zero and the letter of the family. -/
def mark (family : NumberFamily) : Language Char :=
  {w | ∃ letter ∈ family.letter?, w = ['0', letter]}

/-- The numbers of a family without a sign. -/
def magnitude : NumberFamily → Language Char
  | .decimal => run .decimal * (fraction * exponent)
  | family => mark family * (underscores * run family)

/-- The numbers of a family. -/
def literal (family : NumberFamily) : Language Char :=
  minus * magnitude family

/-- The text starts with a digit, or with a minus and a digit. -/
def Starts (rest : List Char) : Prop :=
  ∃ digit more, Lexeme.isDecimalDigit digit ∧ (rest = digit :: more ∨ rest = '-' :: digit :: more)

/--
The number with which the text starts: the longest of its family. The family is the one with a base
letter of which the text starts with a number at all, and so the decimal one if there is none.
-/
structure IsMunched (family : NumberFamily) (rest digits : List Char) : Prop where
  mem : digits ∈ literal family
  isPrefix : digits <+: rest
  length_le : ∀ w ∈ literal family, w <+: rest → w.length ≤ digits.length
  base_iff : ∀ base, base ≠ .decimal → ((∃ w ∈ literal base, w <+: rest) ↔ base = family)

/-! ### The longest word that a text starts with -/

/--
The word is the longest of the language that the text starts with; behind a shorter one a character
follows with which the word goes on.
-/
structure Munches (L : Language Char) (goesOn : Char → Prop) (rest w : List Char) : Prop where
  mem : w ∈ L
  isPrefix : w <+: rest
  longest : ∀ v ∈ L, v <+: rest →
    v = w ∨ v <+: w ∧ ∀ c ∈ (rest.drop v.length).head?, goesOn c

namespace Munches

variable {K L : Language Char} {p q : Char → Prop} {rest w u : List Char}

/-- What is longest up to a class is longest up to a wider one. -/
theorem mono (h : Munches L p rest w) (hpq : ∀ c, p c → q c) : Munches L q rest w where
  mem := h.mem
  isPrefix := h.isPrefix
  longest v hv hpre :=
    (h.longest v hv hpre).imp_right fun ⟨hshort, hnext⟩ ↦ ⟨hshort, fun c hc ↦ hpq c (hnext c hc)⟩

/-- Every other word of the language that the text starts with is a beginning of the longest. -/
theorem isPrefix_of_mem (h : Munches L p rest w) {v : List Char} (hv : v ∈ L)
    (hpre : v <+: rest) : v <+: w := by
  rcases h.longest v hv hpre with rfl | ⟨hshort, -⟩
  · exact List.prefix_refl v
  · exact hshort

/-- A word is the longest one if what follows it in the text cannot go on with it. -/
theorem eq_of_append_isPrefix (h : Munches L p rest w) {x y : List Char} {c : Char} (hx : x ∈ L)
    (hpre : x ++ c :: y <+: rest) (hc : ¬p c) : x = w := by
  rcases h.longest x hx ((List.prefix_append x _).trans hpre) with heq | ⟨-, hnext⟩
  · exact heq
  · obtain ⟨z, rfl⟩ := hpre
    refine absurd (hnext c ?_) hc
    rw [List.append_assoc, List.drop_left]
    rfl

/-- **The longest words of two parts are the longest word of both**, if the second part begins with
nothing with which the first one goes on. -/
theorem append (hw : Munches K p rest w) (hu : Munches L q (rest.drop w.length) u)
    (hfirst : ∀ v ∈ L, ∀ c ∈ v.head?, ¬p c) :
    Munches (K * L) (fun c ↦ p c ∨ q c) rest (w ++ u) where
  mem := Language.append_mem_mul hw.mem hu.mem
  isPrefix := Lexeme.append_isPrefix hw.isPrefix hu.isPrefix
  longest v hv hpre := by
    obtain ⟨x, hx, y, hy, rfl⟩ := Language.mem_mul.1 hv
    have hpart : x = w ∨ y = [] ∧ x <+: w ∧ ∀ c ∈ (rest.drop x.length).head?, p c := by
      cases y with
      | nil =>
        rw [List.append_nil] at hpre
        exact (hw.longest x hx hpre).imp_right fun h ↦ ⟨rfl, h⟩
      | cons c y => exact .inl (hw.eq_of_append_isPrefix hx hpre (hfirst _ hy c rfl))
    rcases hpart with rfl | ⟨rfl, hshort, hnext⟩
    · -- the first part is the longest one, and the second part tells
      have hsecond : y <+: rest.drop x.length := by
        rwa [← List.prefix_iff_eq_append.1 hw.isPrefix, List.prefix_append_right_inj] at hpre
      rcases hu.longest y hy hsecond with rfl | ⟨hshort, hnext⟩
      · exact .inl rfl
      · refine .inr ⟨(List.prefix_append_right_inj x).2 hshort, fun c hc ↦ .inr (hnext c ?_)⟩
        rwa [List.drop_drop, ← List.length_append]
    · rw [List.append_nil]
      exact .inr ⟨hshort.trans (List.prefix_append w u), fun c hc ↦ .inl (hnext c hc)⟩

/-- Where no word of the second part stands behind the longest one of the first, no word of both
parts stands at all. -/
theorem not_isPrefix_of_mem_mul (hw : Munches K p rest w)
    (hfirst : ∀ v ∈ L, ∃ c ∈ v.head?, ¬p c) (hnone : ∀ v ∈ L, ¬v <+: rest.drop w.length) :
    ∀ v ∈ K * L, ¬v <+: rest := by
  intro v hv hpre
  obtain ⟨x, hx, y, hy, rfl⟩ := Language.mem_mul.1 hv
  obtain ⟨c, hhead, hc⟩ := hfirst y hy
  obtain ⟨more, rfl⟩ := List.head?_eq_some_iff.1 hhead
  obtain rfl := hw.eq_of_append_isPrefix hx hpre hc
  rw [← List.prefix_iff_eq_append.1 hw.isPrefix, List.prefix_append_right_inj] at hpre
  exact hnone _ hy hpre

/-- A part that may be missing, where it is there. -/
theorem optional (h : Munches L p rest w) (hpq : ∀ c, p c → q c) (hrest : ∀ c ∈ rest.head?, q c) :
    Munches (1 + L) q rest w where
  mem := .inr h.mem
  isPrefix := h.isPrefix
  longest v hv hpre := by
    rcases hv with rfl | hv
    · exact .inr ⟨List.nil_prefix, hrest⟩
    · exact (h.mono hpq).longest v hv hpre

/-- A part that may be missing, where it is not there. -/
theorem missing (h : ∀ v ∈ L, ¬v <+: rest) : Munches (1 + L) q rest [] where
  mem := .inl rfl
  isPrefix := List.nil_prefix
  longest v hv hpre := by
    rcases hv with rfl | hv
    · exact .inl rfl
    · exact absurd hpre (h v hv)

/-- Of words of one length a text starts with one at most. -/
theorem of_length (hmem : w ∈ L) (hpre : w <+: rest) (hlength : ∀ v ∈ L, v.length = w.length) :
    Munches L (fun _ ↦ False) rest w where
  mem := hmem
  isPrefix := hpre
  longest v hv hv' := .inl
    ((List.prefix_of_prefix_length_le hv' hpre (hlength v hv).le).eq_of_length (hlength v hv))

/-- A run of all characters that pass a test is the longest one of its kind. -/
theorem takeWhile {test : Char → Bool} (hmem : rest.takeWhile test ∈ L)
    (htest : ∀ v ∈ L, ∀ c ∈ v, test c) :
    Munches L (fun c ↦ test c) rest (rest.takeWhile test) where
  mem := hmem
  isPrefix := List.takeWhile_prefix test
  longest v hv hpre := by
    obtain ⟨more, rfl⟩ := hpre
    rw [List.takeWhile_append_of_pos (htest v hv), List.drop_left]
    cases more with
    | nil => exact .inl (List.append_nil v).symm
    | cons c more =>
      by_cases hc : test c
      · exact .inr ⟨List.prefix_append v _, by simpa using hc⟩
      · exact .inl (by rw [List.takeWhile_cons_of_neg hc, List.append_nil])

end Munches

/-! ### The parts of a number -/

section Parts

variable {family : NumberFamily} {rest w : List Char}

theorem munches_minusSign (rest : List Char) :
    Munches minus (· = '-') rest (Lexeme.minusSign rest) := by
  unfold Lexeme.minusSign
  split
  · next more =>
    have hminus : Munches {['-']} (fun _ ↦ False) ('-' :: more) ['-'] :=
      .of_length rfl (by simp) (by rintro v rfl; rfl)
    exact hminus.optional (fun _ h ↦ h.elim) (by simp)
  · next hminus =>
    refine .missing fun v hv ⟨more, hmore⟩ ↦ hminus more ?_
    rw [← hmore, Set.mem_singleton_iff.1 hv]
    rfl

/-- Of the signs of an exponent, one at most is taken. -/
theorem munches_exponentSign (rest : List Char) :
    Munches (1 + {['+'], ['-']}) (fun c ↦ c = '+' ∨ c = '-') rest (Lexeme.exponentSign rest) := by
  have hlength (v : List Char) (hv : v ∈ ({['+'], ['-']} : Language Char)) : v.length = 1 := by
    rcases hv with rfl | rfl <;> rfl
  have hsign {sign : Char} (hmem : [sign] ∈ ({['+'], ['-']} : Language Char)) (more : List Char) :
      Munches {['+'], ['-']} (fun _ ↦ False) (sign :: more) [sign] :=
    .of_length hmem (by simp) hlength
  unfold Lexeme.exponentSign
  split
  · exact (hsign (.inl rfl) _).optional (fun _ h ↦ h.elim) (by simp)
  · exact (hsign (.inr rfl) _).optional (fun _ h ↦ h.elim) (by simp)
  · next hplus hminus =>
    refine .missing fun v hv ⟨more, hmore⟩ ↦ ?_
    rcases hv with rfl | rfl
    · exact hplus more hmore.symm
    · exact hminus more hmore.symm

/-- A run of decimal digits is the longest that is there. -/
theorem munches_of_decimalRun? (h : Lexeme.decimalRun? rest = some w) :
    Munches (run .decimal) (fun c ↦ inRun .decimal c) rest w := by
  unfold Lexeme.decimalRun? at h
  split at h
  · simp at h
  · next digit more =>
    split at h
    · next hdigit =>
      obtain rfl := Option.some.inj h
      have hfirst : inRun .decimal digit := by simp [inRun, NumberFamily.isDigit, hdigit]
      refine .takeWhile ⟨digit, more.takeWhile (inRun .decimal), hdigit,
        fun c hc ↦ List.mem_takeWhile_imp hc, List.takeWhile_cons_of_pos hfirst⟩ ?_
      rintro v ⟨first, others, hfirst, hothers, rfl⟩ c hc
      rcases List.mem_cons.1 hc with rfl | hc
      · simp only [inRun, hfirst, Bool.true_or]
      · exact hothers c hc
    · simp at h

/-- Where no run is recognised the text starts with none. -/
theorem not_isPrefix_of_decimalRun?_eq_none (h : Lexeme.decimalRun? rest = none) {v : List Char}
    (hv : v ∈ run .decimal) : ¬v <+: rest := by
  rintro ⟨more, rfl⟩
  obtain ⟨digit, others, hdigit, -, rfl⟩ := hv
  have hdigit : Lexeme.isDecimalDigit digit := hdigit
  simp [Lexeme.decimalRun?, hdigit] at h

/-- A fraction is the longest that is there, and a point without digits is none. -/
theorem munches_fraction (rest : List Char) :
    Munches fraction (fun c ↦ c = '.' ∨ inRun .decimal c) rest (Lexeme.fraction rest) := by
  unfold Lexeme.fraction
  split
  · next more =>
    cases hrun : Lexeme.decimalRun? more with
    | none =>
      refine .missing fun v hv hpre ↦ ?_
      obtain ⟨-, rfl, y, hy, rfl⟩ := Language.mem_mul.1 hv
      exact not_isPrefix_of_decimalRun?_eq_none hrun hy (List.cons_prefix_cons.1 hpre).2
    | some w =>
      have hpoint : Munches {['.']} (fun _ ↦ False) ('.' :: more) ['.'] :=
        .of_length rfl (by simp) (by rintro v rfl; rfl)
      exact (hpoint.append (munches_of_decimalRun? hrun) (by simp)).optional
        (fun c hc ↦ .inr (hc.resolve_left id)) (by simp)
  · next hpoint =>
    refine .missing fun v hv ⟨more, hmore⟩ ↦ ?_
    obtain ⟨-, rfl, y, -, rfl⟩ := Language.mem_mul.1 hv
    exact hpoint _ hmore.symm

/-- An exponent is the longest that is there, and a letter without digits is none. -/
theorem munches_exponent (rest : List Char) :
    Munches exponent (fun _ ↦ True) rest (Lexeme.exponent rest) := by
  -- Behind a sign there are digits, so a sign is never taken for the first of them.
  have hdigit (v : List Char) (hv : v ∈ run .decimal) : ∃ c ∈ v.head?, ¬(c = '+' ∨ c = '-') := by
    obtain ⟨digit, more, hdigit, -, rfl⟩ := hv
    refine ⟨digit, rfl, ?_⟩
    rintro (rfl | rfl) <;> simp [NumberFamily.isDigit, Lexeme.isDecimalDigit] at hdigit
  unfold Lexeme.exponent
  split
  · next mark more =>
    split
    · next hmark =>
      have hmark : Munches {['e'], ['E']} (fun _ ↦ False) (mark :: more) [mark] :=
        .of_length (by rcases hmark with rfl | rfl; exacts [.inl rfl, .inr rfl]) (by simp)
          (by rintro v (rfl | rfl) <;> rfl)
      have hsign := munches_exponentSign more
      dsimp only
      cases hrun : Lexeme.decimalRun? (more.drop (Lexeme.exponentSign more).length) with
      | none =>
        have hnone := hsign.not_isPrefix_of_mem_mul hdigit fun v hv ↦
          not_isPrefix_of_decimalRun?_eq_none hrun hv
        -- A letter without digits behind it, or behind its sign, is left in the text.
        refine .missing (hmark.not_isPrefix_of_mem_mul (fun v hv ↦ ?_) hnone)
        obtain ⟨x, hx, y, hy, rfl⟩ := Language.mem_mul.1 hv
        obtain ⟨c, hc, -⟩ := hdigit y hy
        rcases hx with rfl | rfl | rfl
        exacts [⟨c, hc, id⟩, ⟨_, rfl, id⟩, ⟨_, rfl, id⟩]
      | some w =>
        have hsigned := hsign.append (munches_of_decimalRun? hrun) fun v hv c hc ↦ by
          obtain ⟨d, hd, hne⟩ := hdigit v hv
          obtain rfl := Option.mem_unique hc hd
          exact hne
        exact (hmark.append hsigned (by simp)).optional (fun _ _ ↦ trivial) (fun _ _ ↦ trivial)
    · next hmark =>
      refine .missing fun v hv hpre ↦ hmark ?_
      obtain ⟨x, hx, y, -, rfl⟩ := Language.mem_mul.1 hv
      rcases hx with rfl | rfl
      · exact .inl (List.cons_prefix_cons.1 hpre).1.symm
      · exact .inr (List.cons_prefix_cons.1 hpre).1.symm
  · refine .missing fun v hv hpre ↦ ?_
    obtain ⟨x, hx, y, -, rfl⟩ := Language.mem_mul.1 hv
    rcases hx with rfl | rfl <;> simp at hpre

end Parts

/-! ### The longest number of a family -/

section Family

variable {family : NumberFamily} {rest w : List Char}

/-- An underscore stands between digits and is none. -/
theorem isDigit_underscore (family : NumberFamily) : family.isDigit '_' = false := by
  cases family <;> rfl

/-- A run of digits and underscores has a first digit if it has any. -/
theorem mem_underscores_mul_run :
    w ∈ underscores * run family ↔ (∀ c ∈ w, inRun family c) ∧ w.any family.isDigit := by
  constructor
  · intro hw
    obtain ⟨x, hx, y, ⟨digit, more, hdigit, hmore, rfl⟩, rfl⟩ := Language.mem_mul.1 hw
    refine ⟨fun c hc ↦ ?_, by simp [hdigit]⟩
    rcases List.mem_append.1 hc with hc | hc
    · simp [inRun, hx c hc]
    rcases List.mem_cons.1 hc with rfl | hc
    · simp [inRun, hdigit]
    · exact hmore c hc
  · rintro ⟨hall, hany⟩
    rw [← List.takeWhile_append_dropWhile (p := (· == '_')) (l := w)] at hall hany ⊢
    have hfront : w.takeWhile (· == '_') ∈ underscores := fun c hc ↦ by
      simpa using List.mem_takeWhile_imp hc
    refine Language.append_mem_mul hfront ?_
    -- The first character that is no underscore is the first digit.
    cases hback : w.dropWhile (· == '_') with
    | nil =>
      rw [hback, List.append_nil, List.any_eq_true] at hany
      obtain ⟨c, hc, hdigit⟩ := hany
      simp [hfront c hc, isDigit_underscore] at hdigit
    | cons digit more =>
      have hne : digit ≠ '_' := by
        have h := List.head_dropWhile_not (l := w) (p := (· == '_')) (by simp [hback])
        simpa [hback] using h
      rw [hback] at hall
      have hdigit := hall digit (by simp)
      have hmore (c : Char) (hc : c ∈ more) : inRun family c := hall c (by simp [hc])
      exact ⟨digit, more, by simpa [inRun, hne] using hdigit, hmore, rfl⟩

/-- Behind its minus every number starts with a decimal digit, also the zero of a mark. -/
theorem exists_digit_of_mem_magnitude (hw : w ∈ magnitude family) :
    ∃ digit more, Lexeme.isDecimalDigit digit ∧ w = digit :: more := by
  have hprefixed {f : NumberFamily} (hw : w ∈ mark f * (underscores * run f)) :
      ∃ digit more, Lexeme.isDecimalDigit digit ∧ w = digit :: more := by
    obtain ⟨-, ⟨letter, -, rfl⟩, y, -, rfl⟩ := Language.mem_mul.1 hw
    exact ⟨'0', letter :: y, rfl, rfl⟩
  cases family with
  | decimal =>
    obtain ⟨-, ⟨digit, more, hdigit, -, rfl⟩, y, -, rfl⟩ := Language.mem_mul.1 hw
    exact ⟨digit, more ++ y, hdigit, rfl⟩
  | hex | binary | octal => exact hprefixed hw

/-- A number with a mark is the longest of its family. -/
theorem munches_of_prefixed? (h : Lexeme.prefixed? family rest = some w) :
    Munches (mark family * (underscores * run family)) (fun _ ↦ True) rest w := by
  unfold Lexeme.prefixed? at h
  split at h
  · next letter more =>
    dsimp only at h
    split at h
    · next hdigits =>
      obtain rfl := Option.some.inj h
      obtain ⟨hletter, hany⟩ := hdigits
      have hmark : Munches (mark family) (fun _ ↦ False) ('0' :: letter :: more) ['0', letter] :=
        .of_length ⟨letter, hletter, rfl⟩ (by simp) (by rintro v ⟨other, -, rfl⟩; rfl)
      have hrun : Munches (underscores * run family) (fun c ↦ inRun family c) more
          (Lexeme.digitRun family more) :=
        .takeWhile (mem_underscores_mul_run.2 ⟨fun c hc ↦ List.mem_takeWhile_imp hc, hany⟩)
          fun v hv ↦ (mem_underscores_mul_run.1 hv).1
      exact (hmark.append hrun (by simp)).mono fun _ _ ↦ trivial
    · simp at h
  · simp at h

/-- Where no number with a mark is recognised the text starts with none. -/
theorem not_isPrefix_of_prefixed?_eq_none (h : Lexeme.prefixed? family rest = none) :
    ∀ v ∈ mark family * (underscores * run family), ¬v <+: rest := by
  rintro v hv ⟨more, rfl⟩
  obtain ⟨-, ⟨letter, hletter, rfl⟩, y, hy, rfl⟩ := Language.mem_mul.1 hv
  obtain ⟨hall, hany⟩ := mem_underscores_mul_run.1 hy
  have hrun : y <+: (y ++ more).takeWhile (inRun family) := by
    rw [List.takeWhile_append_of_pos hall]
    exact List.prefix_append y _
  have hsome : (Lexeme.digitRun family (y ++ more)).any family.isDigit := by
    rw [List.any_eq_true] at hany ⊢
    exact hany.imp fun c hc ↦ ⟨hrun.subset hc.1, hc.2⟩
  have hletter : family.letter? = some letter := hletter
  simp [Lexeme.prefixed?, hletter, hsome] at h

/-- A decimal number is the longest, with as much of a fraction and of an exponent as is there. -/
theorem munches_of_decimal? (h : Lexeme.decimal? rest = some w) :
    Munches (run .decimal * (fraction * exponent)) (fun _ ↦ True) rest w := by
  obtain ⟨whole, hwhole, rfl⟩ := Lexeme.decimal?_eq_some_iff.1 h
  have hexponent (v : List Char) (hv : v ∈ exponent) (c : Char) (hc : c ∈ v.head?) :
      c = 'e' ∨ c = 'E' := by
    rcases hv with rfl | hv
    · simp at hc
    · obtain ⟨x, hx, y, -, rfl⟩ := Language.mem_mul.1 hv
      rcases hx with rfl | rfl
      · exact .inl (by simpa using hc.symm)
      · exact .inr (by simpa using hc.symm)
  have hpart (v : List Char) (hv : v ∈ fraction * exponent) (c : Char) (hc : c ∈ v.head?) :
      c = '.' ∨ c = 'e' ∨ c = 'E' := by
    obtain ⟨x, hx, y, hy, rfl⟩ := Language.mem_mul.1 hv
    rcases hx with rfl | hx
    · exact .inr (hexponent y hy c hc)
    · obtain ⟨-, rfl, z, -, rfl⟩ := Language.mem_mul.1 hx
      exact .inl (by simpa using hc.symm)
  -- The parts go on with different characters, so the longest of each make up the longest number.
  rw [List.append_assoc]
  refine ((munches_of_decimalRun? hwhole).append ((munches_fraction _).append (munches_exponent _)
    fun v hv c hc ↦ ?_) fun v hv c hc ↦ ?_).mono fun _ _ ↦ trivial
  · rcases hexponent v hv c hc with rfl | rfl <;> decide
  · rcases hpart v hv c hc with rfl | rfl | rfl <;> decide

/-- Where none is recognised the text starts with no decimal number. -/
theorem not_isPrefix_of_decimal?_eq_none (h : Lexeme.decimal? rest = none) :
    ∀ v ∈ run .decimal * (fraction * exponent), ¬v <+: rest := by
  have hrun : Lexeme.decimalRun? rest = none := by
    rw [← Option.not_isSome_iff_eq_none, Option.isSome_iff_exists]
    rintro ⟨whole, hwhole⟩
    simp [Lexeme.decimal?, hwhole] at h
  intro v hv hpre
  obtain ⟨x, hx, y, -, rfl⟩ := Language.mem_mul.1 hv
  exact not_isPrefix_of_decimalRun?_eq_none hrun hx ((List.prefix_append x y).trans hpre)

/-- In each family the longest number is taken. -/
theorem munches_of_magnitude? (h : Lexeme.magnitude? family rest = some w) :
    Munches (magnitude family) (fun _ ↦ True) rest w := by
  cases family with
  | decimal => exact munches_of_decimal? h
  | hex | binary | octal => exact munches_of_prefixed? h

/-- In each family, where no number is recognised the text starts with none. -/
theorem not_isPrefix_of_magnitude?_eq_none (h : Lexeme.magnitude? family rest = none) :
    ∀ v ∈ magnitude family, ¬v <+: rest := by
  cases family with
  | decimal => exact not_isPrefix_of_decimal?_eq_none h
  | hex | binary | octal => exact not_isPrefix_of_prefixed?_eq_none h

/-- Only one minus can stand in front of a number. -/
theorem ne_minus_of_mem_magnitude (hw : w ∈ magnitude family) : ∃ c ∈ w.head?, c ≠ '-' := by
  obtain ⟨digit, more, hdigit, rfl⟩ := exists_digit_of_mem_magnitude hw
  refine ⟨digit, rfl, ?_⟩
  rintro rfl
  simp [Lexeme.isDecimalDigit] at hdigit

/-- **The number that is recognised of a family is the longest literal of it.** -/
theorem munches_of_numberOf? {x : Lexeme} (h : Lexeme.numberOf? family rest = some x) :
    ∃ digits, x = .number family digits ∧ Munches (literal family) (fun _ ↦ True) rest digits := by
  obtain ⟨digits, hdigits, rfl⟩ := Option.map_eq_some_iff.1 h
  refine ⟨_, rfl, ((munches_minusSign rest).append (munches_of_magnitude? hdigits)
    fun v hv c hc ↦ ?_).mono fun _ _ ↦ trivial⟩
  obtain ⟨d, hd, hne⟩ := ne_minus_of_mem_magnitude hv
  obtain rfl := Option.mem_unique hc hd
  exact hne

/-- **Where no number of a family is recognised the text starts with no literal of it.** -/
theorem not_isPrefix_of_numberOf?_eq_none (h : Lexeme.numberOf? family rest = none) :
    ∀ v ∈ literal family, ¬v <+: rest :=
  (munches_minusSign rest).not_isPrefix_of_mem_mul (fun _ hv ↦ ne_minus_of_mem_magnitude hv)
    (not_isPrefix_of_magnitude?_eq_none (Option.map_eq_none_iff.1 h))

end Family

/-! ### One family only -/

section Families

variable {family other : NumberFamily} {rest v w : List Char}

/-- A text that starts with a literal starts a number. -/
theorem starts_of_isPrefix (hw : w ∈ literal family) (hpre : w <+: rest) : Starts rest := by
  obtain ⟨sign, hsign, y, hy, rfl⟩ := Language.mem_mul.1 hw
  obtain ⟨digit, more, hdigit, rfl⟩ := exists_digit_of_mem_magnitude hy
  obtain ⟨tail, rfl⟩ := hpre
  rcases hsign with rfl | rfl
  · exact ⟨digit, more ++ tail, hdigit, .inl rfl⟩
  · exact ⟨digit, more ++ tail, hdigit, .inr rfl⟩

/-- A digit, and a minus with a digit, are a decimal number. -/
theorem exists_isPrefix_of_starts (h : Starts rest) : ∃ w ∈ literal .decimal, w <+: rest := by
  obtain ⟨digit, more, hdigit, hrest⟩ := h
  have hrun : [digit] ∈ run .decimal := ⟨digit, [], hdigit, by simp, rfl⟩
  have hnothing : [] ∈ fraction * exponent :=
    Language.mem_mul.2 ⟨[], .inl rfl, [], .inl rfl, rfl⟩
  have hmagnitude : [digit] ∈ magnitude .decimal :=
    Language.mem_mul.2 ⟨_, hrun, _, hnothing, rfl⟩
  rcases hrest with rfl | rfl
  · have hplain : [] ∈ minus := .inl rfl
    exact ⟨[digit], Language.mem_mul.2 ⟨_, hplain, _, hmagnitude, rfl⟩, by simp⟩
  · have hsign : ['-'] ∈ minus := .inr rfl
    exact ⟨['-', digit], Language.mem_mul.2 ⟨_, hsign, _, hmagnitude, rfl⟩, by simp⟩

/-- A number with a base letter: its sign, the zero and the letter. -/
theorem exists_letter_of_mem_literal (hfamily : family ≠ .decimal) (hw : w ∈ literal family) :
    ∃ sign ∈ minus, ∃ letter ∈ family.letter?, ∃ more, w = sign ++ '0' :: letter :: more := by
  have hprefixed {f : NumberFamily} (hw : w ∈ minus * (mark f * (underscores * run f))) :
      ∃ sign ∈ minus, ∃ letter ∈ f.letter?, ∃ more, w = sign ++ '0' :: letter :: more := by
    obtain ⟨sign, hsign, y, hy, rfl⟩ := Language.mem_mul.1 hw
    obtain ⟨-, ⟨letter, hletter, rfl⟩, more, -, rfl⟩ := Language.mem_mul.1 hy
    exact ⟨sign, hsign, letter, hletter, more, rfl⟩
  cases family with
  | decimal => exact absurd rfl hfamily
  | hex | binary | octal => exact hprefixed hw

theorem eq_of_mem_letter? {letter : Char} (hfamily : letter ∈ family.letter?)
    (hother : letter ∈ other.letter?) : family = other := by
  have h : family.letter? = other.letter? := hfamily.trans hother.symm
  cases family <;> cases other <;> simp [NumberFamily.letter?] at h ⊢

/-- A text starts with numbers of one family with a base letter at most. -/
theorem eq_of_isPrefix_of_isPrefix (hfamily : family ≠ .decimal) (hother : other ≠ .decimal)
    (hw : w ∈ literal family) (hv : v ∈ literal other) (hw' : w <+: rest) (hv' : v <+: rest) :
    family = other := by
  obtain ⟨sign, hsign, letter, hletter, more, rfl⟩ := exists_letter_of_mem_literal hfamily hw
  obtain ⟨sign', hsign', letter', hletter', more', rfl⟩ := exists_letter_of_mem_literal hother hv
  have hsame : sign = sign' :=
    ((munches_minusSign rest).eq_of_append_isPrefix hsign hw' (by decide)).trans
      ((munches_minusSign rest).eq_of_append_isPrefix hsign' hv' (by decide)).symm
  subst hsame
  obtain ⟨tail, rfl⟩ := hw'
  simp only [List.append_assoc, List.prefix_append_right_inj, List.cons_append,
    List.cons_prefix_cons, true_and] at hv'
  exact eq_of_mem_letter? hletter (hv'.1 ▸ hletter')

/-- The characters of a decimal number. -/
theorem isDigit_or_mem_of_mem_decimal (hw : w ∈ literal .decimal) {c : Char} (hc : c ∈ w) :
    inRun .decimal c ∨ c ∈ ['-', '.', 'e', 'E', '+'] := by
  have hrun {v : List Char} (hv : v ∈ run .decimal) (hc : c ∈ v) : inRun .decimal c := by
    obtain ⟨digit, more, hdigit, hmore, rfl⟩ := hv
    rcases List.mem_cons.1 hc with rfl | hc
    · simp [inRun, hdigit]
    · exact hmore c hc
  obtain ⟨sign, hsign, y, hy, rfl⟩ := Language.mem_mul.1 hw
  obtain ⟨whole, hwhole, z, hz, rfl⟩ := Language.mem_mul.1 hy
  obtain ⟨part, hpart, power, hpower, rfl⟩ := Language.mem_mul.1 hz
  simp only [List.mem_append] at hc
  rcases hc with hc | hc | hc | hc
  · rcases hsign with rfl | rfl <;> simp_all
  · exact .inl (hrun hwhole hc)
  · rcases hpart with rfl | hpart
    · simp at hc
    · obtain ⟨-, rfl, v, hv, rfl⟩ := Language.mem_mul.1 hpart
      rcases List.mem_append.1 hc with hc | hc
      · simp_all
      · exact .inl (hrun hv hc)
  · rcases hpower with rfl | hpower
    · simp at hc
    · obtain ⟨mark, hmark, u, hu, rfl⟩ := Language.mem_mul.1 hpower
      obtain ⟨plus, hplus, v, hv, rfl⟩ := Language.mem_mul.1 hu
      simp only [List.mem_append] at hc
      rcases hc with hc | hc | hc
      · rcases hmark with rfl | rfl <;> simp_all
      · rcases hplus with rfl | rfl | rfl <;> simp_all
      · exact .inl (hrun hv hc)

/-- No decimal literal has the letter of a mark, so none goes on where a mark would. -/
theorem letter_notMem_of_mem_decimal (hw : w ∈ literal .decimal) {letter : Char}
    (hletter : letter ∈ family.letter?) : letter ∉ w := by
  intro hmem
  have hclass := isDigit_or_mem_of_mem_decimal hw hmem
  cases family with
  | decimal => simp [NumberFamily.letter?] at hletter
  | hex | binary | octal =>
    obtain rfl := Option.some.inj hletter
    revert hclass
    decide

/-- **A number that is read is the longest of its family.** -/
theorem exists_isMunched_of_number? {x : Lexeme} (h : Lexeme.number? rest = some x) :
    ∃ family digits, x = .number family digits ∧ IsMunched family rest digits := by
  have hread {f : NumberFamily} (h : Lexeme.numberOf? f rest = some x)
      (hbase : ∀ base, base ≠ .decimal → ∀ w ∈ literal base, w <+: rest → base = f) :
      ∃ family digits, x = .number family digits ∧ IsMunched family rest digits := by
    obtain ⟨digits, rfl, hdigits⟩ := munches_of_numberOf? h
    have hlongest (w : List Char) (hw : w ∈ literal f) (hpre : w <+: rest) :
        w.length ≤ digits.length :=
      (hdigits.isPrefix_of_mem hw hpre).length_le
    refine ⟨f, digits, rfl, hdigits.mem, hdigits.isPrefix, hlongest, fun base hne ↦ ⟨?_, ?_⟩⟩
    · rintro ⟨w, hw, hpre⟩
      exact hbase base hne w hw hpre
    · rintro rfl
      exact ⟨digits, hdigits.mem, hdigits.isPrefix⟩
  have hbased {f : NumberFamily} (hf : f ≠ .decimal) (h : Lexeme.numberOf? f rest = some x) :
      ∃ family digits, x = .number family digits ∧ IsMunched family rest digits := by
    obtain ⟨digits, -, hdigits⟩ := munches_of_numberOf? h
    exact hread h fun base hne w hw hpre ↦
      eq_of_isPrefix_of_isPrefix hne hf hw hdigits.mem hpre hdigits.isPrefix
  simp only [Lexeme.number?, Option.orElse_eq_orElse, Option.orElse_eq_or,
    Option.or_eq_some_iff] at h
  rcases h with h | ⟨hhex, h | ⟨hbinary, h | ⟨hoctal, h⟩⟩⟩
  · exact hbased (by decide) h
  · exact hbased (by decide) h
  · exact hbased (by decide) h
  · -- the decimal family comes last, where none of the others has a number
    refine hread h fun base hne w hw hpre ↦ absurd hpre ?_
    cases base with
    | hex => exact not_isPrefix_of_numberOf?_eq_none hhex w hw
    | binary => exact not_isPrefix_of_numberOf?_eq_none hbinary w hw
    | octal => exact not_isPrefix_of_numberOf?_eq_none hoctal w hw
    | decimal => exact absurd rfl hne

/-- A number is read where the text starts like one, and nowhere else. -/
theorem isSome_number?_iff : (Lexeme.number? rest).isSome ↔ Starts rest := by
  constructor
  · intro h
    obtain ⟨x, hx⟩ := Option.isSome_iff_exists.1 h
    obtain ⟨family, digits, -, hdigits⟩ := exists_isMunched_of_number? hx
    exact starts_of_isPrefix hdigits.mem hdigits.isPrefix
  · intro h
    obtain ⟨w, hw, hpre⟩ := exists_isPrefix_of_starts h
    rw [Option.isSome_iff_ne_none]
    intro hnone
    simp only [Lexeme.number?, Option.orElse_eq_orElse, Option.orElse_eq_or,
      Option.or_eq_none_iff] at hnone
    exact not_isPrefix_of_numberOf?_eq_none hnone.2.2.2 w hw hpre

end Families

/-! ### Numbers among the lexemes -/

section Lexemes

variable {family : NumberFamily} {rest digits : List Char}

theorem named?_ne_number : Lexeme.named? rest ≠ some (.number family digits) := by
  simp only [Lexeme.named?, Option.orElse_eq_orElse, Option.orElse_eq_or, Ne,
    Option.or_eq_some_iff]
  rintro (h | ⟨-, h | ⟨-, h | ⟨-, h | ⟨-, h | ⟨-, h⟩⟩⟩⟩⟩)
  · obtain ⟨name, -, more, -, h⟩ := Lexeme.memberName?_eq_some_iff.1 h
    simp at h
  · unfold Lexeme.boolean? at h
    repeat' split at h
    all_goals simp at h
  · obtain ⟨name, -, h⟩ := Option.bind_eq_some_iff.1 h
    split at h <;> simp at h
  · unfold Lexeme.rawIdentifier? at h
    split at h <;> simp at h
  · simp at h
  · simp at h

theorem punctuation?_ne_number : Lexeme.punctuation? rest ≠ some (.number family digits) := by
  unfold Lexeme.punctuation?
  split <;> simp

/-- No opener starts like a number, and a number is tried before names. -/
theorem inValue?_of_starts (h : Starts rest) : Lexeme.inValue? rest = Lexeme.number? rest := by
  have hopener : Lexeme.opener? rest = none := by
    obtain ⟨digit, more, hdigit, hrest⟩ := h
    rcases hrest with rfl | rfl
    · refine Lexeme.opener?_cons_eq_none (fun hmem ↦ ?_) _
      simp only [List.mem_cons, List.not_mem_nil, or_false] at hmem
      rcases hmem with rfl | rfl | rfl | rfl | rfl | rfl <;>
        simp [Lexeme.isDecimalDigit] at hdigit
    · exact Lexeme.opener?_cons_eq_none (by decide) _
  obtain ⟨x, hx⟩ := Option.isSome_iff_exists.1 (isSome_number?_iff.2 h)
  simp [Lexeme.inValue?, hopener, hx]

/-- A number is recognised only where one starts. -/
theorem starts_of_inValue?_eq_number (h : Lexeme.inValue? rest = some (.number family digits)) :
    Starts rest := by
  simp only [Lexeme.inValue?, Option.orElse_eq_orElse, Option.orElse_eq_or,
    Option.or_eq_some_iff] at h
  rcases h with h | ⟨-, h | ⟨-, h | ⟨-, h⟩⟩⟩
  · exact absurd (Lexeme.isOpener_of_opener? h) (by simp [Lexeme.isOpener])
  · exact isSome_number?_iff.1 (Option.isSome_iff_exists.2 ⟨_, h⟩)
  · exact absurd h named?_ne_number
  · exact absurd h punctuation?_ne_number

/-- Of the lexemes of value position only numbers have a numeric scope. -/
theorem isNumeric_eq_false_of_mem_step {s : Stack} {x : Lexeme} (hx : x.isValue)
    (hnumber : ∀ family digits, x ≠ .number family digits) {p : Piece}
    (hp : p ∈ (x.step s).pieces) {leaf : Scope} (hleaf : leaf ∈ p.leaf) :
    leaf.isNumeric = false := by
  have hclassify {frames : Stack} {mark : Scope} {text : List Char}
      (hmark : mark.isNumeric = false) (hp : p ∈ [(⟨text, frames, some mark⟩ : Piece)]) :
      leaf.isNumeric = false := by
    obtain rfl := List.mem_singleton.1 hp
    obtain rfl := Option.some.inj hleaf
    exact hmark
  have hbracket (kind : Bracket) : kind.mark.isNumeric = false := by cases kind <;> rfl
  -- Only a number has a scope of numbers, whatever else a step gives.
  cases x with
  | number family digits => exact absurd rfl (hnumber family digits)
  | memberName name gap =>
    simp only [Lexeme.step, Lexeme.memberPieces, List.mem_cons, List.mem_append] at hp
    rcases hp with rfl | hp | hp
    · exact hclassify rfl (List.mem_singleton.2 rfl)
    · split at hp
      · simp at hp
      · obtain rfl := List.mem_singleton.1 hp
        simp at hleaf
    · exact hclassify rfl (by simpa using hp)
  | groupOpen kind => exact hclassify (hbracket kind) hp
  | groupClose kind =>
    simp only [Lexeme.step, Lexeme.closeGroup] at hp
    split at hp
    · exact hclassify (hbracket kind) hp
    · exact hclassify rfl hp
  | commentNest | commentUnnest | commentText _ | escape _ | quoteClose | quoteText _ | rawQuote _
  | rawText _ | characterClose | characterText _ => simp [Lexeme.isValue] at hx
  | _ => exact hclassify rfl hp

end Lexemes

/-! ### Numbers along a line -/

/-- Each family has a scope that is one of numbers. -/
theorem isNumeric_scope (family : NumberFamily) : family.scope.isNumeric := by
  cases family <;> rfl

/-- No open construct gives a scope of numbers, so such a scope is a leaf. -/
theorem isNumeric_of_mem_scopes {s : Stack} {scope : Scope} (h : scope ∈ s.scopes) :
    scope.isNumeric = false := by
  induction s with
  | nil =>
    obtain rfl := List.mem_singleton.1 h
    rfl
  | cons f below ih =>
    rw [Stack.scopes_cons, List.mem_append] at h
    rcases h with h | h
    · exact ih h
    · obtain rfl := List.mem_singleton.1 h
      cases f with
      | group kind => cases kind <;> rfl
      | _ => rfl

section Steps

variable {s : Stack} (hs : s.InValue)
include hs

/-- Where no literal is open a line ends with the stack as it is. -/
theorem endLine_of_inValue : s.endLine = s := by
  cases s with
  | nil => rfl
  | cons f below =>
    have hf := hs f rfl
    have hlocal : f.isLineLocal = false := by
      cases f <;> simp_all [Frame.isLineLocal, Frame.isLiteral]
    simp [Stack.endLine, hlocal]

/-- **Where the rest starts like a number, the longest number of its family is cut off.** -/
theorem exists_scanStep_eq {c : Char} {rest : List Char} (h : Starts (c :: rest)) :
    ∃ family digits, IsMunched family (c :: rest) digits ∧
      scanStep s c rest = .classify s family.scope digits := by
  obtain ⟨x, hx⟩ := Option.isSome_iff_exists.1 (isSome_number?_iff.2 h)
  obtain ⟨family, digits, rfl, hdigits⟩ := exists_isMunched_of_number? hx
  refine ⟨family, digits, hdigits, ?_⟩
  rw [scanStep, Lexeme.recognise?_of_inValue hs, inValue?_of_starts h, hx]
  simp [Lexeme.step, Lexeme.text, Lexeme.parts]

/-- A piece of a step with a scope of numbers is there only if a number starts there. -/
theorem starts_of_isNumeric {c : Char} {rest : List Char} {p : Piece}
    (hp : p ∈ (scanStep s c rest).pieces) {leaf : Scope} (hleaf : leaf ∈ p.leaf)
    (hnumeric : leaf.isNumeric) : Starts (c :: rest) := by
  unfold scanStep at hp
  split at hp
  · next x hx =>
    rw [Lexeme.recognise?_of_inValue hs] at hx
    by_contra hstarts
    have hnumber (family : NumberFamily) (digits : List Char) : x ≠ .number family digits := by
      rintro rfl
      exact hstarts (starts_of_inValue?_eq_number hx)
    have hfalse := isNumeric_eq_false_of_mem_step (Lexeme.reads_of_inValue? hx).belongs hnumber hp
      hleaf
    simp [hfalse] at hnumeric
  · obtain rfl := List.mem_singleton.1 hp
    simp at hleaf

/-- A whole number is cut off in its own family. -/
theorem scanStep_eq_of_mem_literal {family : NumberFamily} {c : Char} {rest : List Char}
    (hw : c :: rest ∈ literal family) :
    scanStep s c rest = .classify s family.scope (c :: rest) := by
  have hwhole : c :: rest <+: c :: rest := List.prefix_refl _
  obtain ⟨other, digits, ⟨hmem, hpre, hlongest, hother⟩, hstep⟩ :=
    exists_scanStep_eq hs (starts_of_isPrefix hw hwhole)
  have hsame : family = other := by
    by_cases hfamily : family = .decimal
    · -- a decimal number does not start with a number with a base letter
      subst hfamily
      by_contra hne
      obtain ⟨sign, -, letter, hletter, more, rfl⟩ :=
        exists_letter_of_mem_literal (fun h ↦ hne h.symm) hmem
      exact letter_notMem_of_mem_decimal hw hletter (hpre.subset (by simp))
    · exact (hother family hfamily).1 ⟨_, hw, hwhole⟩
  subst hsame
  rw [hstep, hpre.eq_of_length_le (hlongest _ hw hwhole)]

end Steps

/-- Pieces that are not empty are told apart by where they begin. -/
theorem eq_of_byteLength_eq {front done back more : List Piece} {p q : Piece}
    (h : front ++ p :: back = done ++ q :: more) (hne : ∀ r ∈ front ++ p :: back, r.text ≠ [])
    (hlength : Text.byteLength (Piece.textOf front) = Text.byteLength (Piece.textOf done)) :
    p = q := by
  rcases List.append_eq_append_iff.1 h with ⟨between, rfl, hbetween⟩ | ⟨between, rfl, hbetween⟩
  · cases between with
    | nil => exact (List.cons.inj hbetween).1
    | cons r between =>
      obtain ⟨rfl, -⟩ := List.cons.inj hbetween
      have hpos := Text.byteLength_pos (hne p (by simp))
      simp at hlength
      omega
  · cases between with
    | nil => exact (List.cons.inj hbetween).1.symm
    | cons r between =>
      obtain ⟨rfl, -⟩ := List.cons.inj hbetween
      have hpos := Text.byteLength_pos (hne q (by simp))
      simp at hlength
      omega

/-- The token has a numeric scope. -/
def IsNumeric (t : Token) : Prop :=
  ∃ scope ∈ t.scopes, scope.isNumeric

section Run

variable {s u : Stack} {line rest : List Char} {done : List Piece} {c : Char}
  (hrun : Scans s line done u (c :: rest)) (hu : u.InValue)
include hrun hu

/-- A numeric token that starts at a scan position starts with the first piece of the step. -/
theorem starts_of_mem_tokenizeLine {t : Token} (ht : t ∈ (tokenizeLine line s).tokens)
    (hstart : t.start = Text.byteLength (Piece.textOf done)) (hnumeric : IsNumeric t) :
    Starts (c :: rest) := by
  obtain ⟨scope, hscope, hnumeric⟩ := hnumeric
  obtain ⟨front, p, back, hscan, hfront, hscopes⟩ := exists_scan_eq_of_mem_tokenizeLine ht
  obtain ⟨q, others, hpieces⟩ : ∃ q others, (scanStep u c rest).pieces = q :: others :=
    List.exists_cons_of_ne_nil fun hnil ↦
      consumed_scanStep_ne_nil u c rest (by simp [Step.consumed, hnil])
  have hboth : front ++ p :: back = done ++ (scan u (c :: rest)).1 :=
    hscan.symm.trans (congrArg Prod.fst hrun.scan_eq)
  rw [scan_cons, hpieces, List.cons_append] at hboth
  have hne : ∀ r ∈ front ++ p :: back, r.text ≠ [] := fun r hr ↦
    text_ne_nil_of_mem_scan (hscan ▸ hr)
  obtain rfl := eq_of_byteLength_eq hboth hne (hfront.symm.trans hstart)
  have hmem : p ∈ (scanStep u c rest).pieces := by simp [hpieces]
  rw [hscopes, Piece.scopes, List.mem_append, Option.mem_toList] at hscope
  rcases hscope with hframe | hleaf
  · simp [isNumeric_of_mem_scopes hframe] at hnumeric
  · exact starts_of_isNumeric hu hmem hleaf hnumeric

/-- **Where a number starts, the longest literal of some family is one token.** -/
theorem exists_isMunched_of_starts (h : Starts (c :: rest)) :
    ∃ family digits, IsMunched family (c :: rest) digits ∧
      ⟨Text.byteLength (Piece.textOf done),
        Text.byteLength (Piece.textOf done) + Text.byteLength digits,
        u.scopes ++ [family.scope]⟩ ∈ (tokenizeLine line s).tokens := by
  obtain ⟨family, digits, hdigits, hstep⟩ := exists_scanStep_eq hu h
  have hnext := hrun.trans (.one u c rest)
  rw [hstep] at hnext
  exact ⟨family, digits, hdigits, mem_tokenizeLine_of_scans hnext rfl⟩

end Run

/-- A number alone on a line is one token. -/
theorem tokenizeLine_of_mem_literal {s : Stack} (hs : s.InValue) {family : NumberFamily}
    {w : List Char} (hw : w ∈ literal family) :
    tokenizeLine w s = ⟨[⟨0, Text.byteLength w, s.scopes ++ [family.scope]⟩], s⟩ := by
  cases w with
  | nil =>
    obtain ⟨digit, more, -, h | h⟩ := starts_of_isPrefix hw (List.prefix_refl []) <;> cases h
  | cons c rest =>
    have hrun := scans_of_scanStep (scanStep_eq_of_mem_literal hs hw) (List.append_nil _).symm
    rw [tokenizeLine, hrun.scan_eq_of_nil, endLine_of_inValue hs]
    simp [Piece.join, Token.layout, Piece.scopes]

/--
**Numbers are munched, each in its own family.** At a scan position in value position a numeric
token starts if and only if the rest starts with a digit, or with a minus and a digit; and it is the
longest number of its family (`IsMunched`).

A number of any family, alone on a line, is one token, and of its scopes that of the family alone is
numeric.
-/
theorem tokenizeLine_munches {s u : Stack} {line rest : List Char} {done : List Piece} {c : Char}
    (hrun : Scans s line done u (c :: rest)) (hu : u.InValue) :
    ((∃ t ∈ (tokenizeLine line s).tokens, t.start = Text.byteLength (Piece.textOf done) ∧
      IsNumeric t) ↔ Starts (c :: rest)) ∧
    (Starts (c :: rest) → ∃ family digits, IsMunched family (c :: rest) digits ∧
      ⟨Text.byteLength (Piece.textOf done),
        Text.byteLength (Piece.textOf done) + Text.byteLength digits,
        u.scopes ++ [family.scope]⟩ ∈ (tokenizeLine line s).tokens) ∧
    ∀ family, ∀ w ∈ literal family,
      tokenizeLine w u = ⟨[⟨0, Text.byteLength w, u.scopes ++ [family.scope]⟩], u⟩ ∧
        (u.scopes ++ [family.scope]).filter Scope.isNumeric = [family.scope] := by
  refine ⟨⟨?_, fun h ↦ ?_⟩, exists_isMunched_of_starts hrun hu, fun family w hw ↦ ⟨?_, ?_⟩⟩
  · rintro ⟨t, ht, hstart, hnumeric⟩
    exact starts_of_mem_tokenizeLine hrun hu ht hstart hnumeric
  · obtain ⟨family, digits, -, ht⟩ := exists_isMunched_of_starts hrun hu h
    exact ⟨_, ht, rfl, family.scope, by simp, isNumeric_scope family⟩
  · exact tokenizeLine_of_mem_literal hu hw
  · have hframes : u.scopes.filter Scope.isNumeric = [] :=
      List.filter_eq_nil_iff.2 fun scope h ↦ by simp [isNumeric_of_mem_scopes h]
    simp [hframes, isNumeric_scope family]

/--
In the list that the line `[-0x_` opens, the mark of the hexadecimal family has no digit behind it:
a decimal number is cut off, and the letter stays for a name.
-/
theorem tokenizeLine_munches_mark_without_digits :
    Scans [] ['[', '-', '0', 'x', '_'] [⟨['['], [.group .brackets], some .brackets⟩]
      [.group .brackets] ['-', '0', 'x', '_'] ∧
    Stack.InValue [.group .brackets] ∧
    (∃ family digits, IsMunched family ['-', '0', 'x', '_'] digits ∧
      ⟨1, 1 + Text.byteLength digits, [.source, .list, family.scope]⟩ ∈
        (tokenizeLine ['[', '-', '0', 'x', '_'] []).tokens) ∧
    (tokenizeLine ['[', '-', '0', 'x', '_'] []).tokens =
      [⟨0, 1, [.source, .list, .brackets]⟩, ⟨1, 3, [.source, .list, .number]⟩,
        ⟨3, 5, [.source, .list, .identifier]⟩] := by
  have hrun : Scans [] ['[', '-', '0', 'x', '_'] [⟨['['], [.group .brackets], some .brackets⟩]
      [.group .brackets] ['-', '0', 'x', '_'] := .one [] '[' ['-', '0', 'x', '_']
  have hvalue : Stack.InValue [.group .brackets] := by simp [Stack.InValue, Frame.isLiteral]
  have hstarts : Starts ['-', '0', 'x', '_'] := ⟨'0', ['x', '_'], rfl, .inr rfl⟩
  exact ⟨hrun, hvalue, (tokenizeLine_munches hrun hvalue).2.1 hstarts, by decide +kernel⟩

end Number

end RonWorkbench
