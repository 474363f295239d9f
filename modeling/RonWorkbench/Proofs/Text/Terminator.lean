import RonWorkbench.Proofs.Text.Lines

/-!
# The bytes between the lines

A line terminator is a newline, together with a carriage return right in front of it. What stands at
a byte is told from the cut at its offset (`standsAt`); a byte inside a character is at no cut and
belongs to no terminator.

The lines of a text are apart from each other and have all of its bytes but those of terminators
and at most one more (`countP_lines`): a carriage return at the very end of a text is cut off with
the last line although no newline follows it (`isFinalReturn`). The proof goes along the lines of
the text; each time only the first line is looked at, and what is behind its newline is a shorter
text of its own.
-/

namespace RonWorkbench.Text

/-- There is a cut at the byte, and what follows it passes the test. -/
def standsAt (test : List Char → Bool) (text : List Char) (i : Nat) : Bool :=
  (splitAtByte? i text).any fun cut ↦ test cut.2

/-- The text begins with a newline, or with a carriage return and a newline. -/
def startsTerminator : List Char → Bool
  | '\n' :: _ | '\r' :: '\n' :: _ => true
  | _ => false

/-- The byte is a newline or a carriage return right in front of one. -/
def isTerminator (text : List Char) (i : Nat) : Bool :=
  standsAt startsTerminator text i

/-- The byte is a carriage return, and the text ends with it. -/
def isFinalReturn (text : List Char) (i : Nat) : Bool :=
  standsAt (· == ['\r']) text i

/-- The byte is one of the line, its terminator apart. -/
def Line.Contains (line : Line) (i : Nat) : Prop :=
  line.offset ≤ i ∧ i < line.offset + byteLength line.text

instance (line : Line) (i : Nat) : Decidable (line.Contains i) :=
  inferInstanceAs (Decidable (_ ∧ _))

/-! ### What stands at a byte -/

/-- Something stands at a byte if the text can be cut there in front of it. -/
theorem standsAt_iff {test : List Char → Bool} {text : List Char} {i : Nat} :
    standsAt test text i ↔
      ∃ before after, text = before ++ after ∧ byteLength before = i ∧ test after := by
  rw [standsAt, Option.any_eq_true]
  constructor
  · rintro ⟨⟨before, after⟩, hcut, htest⟩
    obtain ⟨htext, hlen⟩ := eq_append_of_splitAtByte? hcut
    exact ⟨before, after, htext, hlen, htest⟩
  · rintro ⟨before, after, htext, hlen, htest⟩
    exact ⟨(before, after), splitAtByte?_eq_some_iff.2 ⟨htext, hlen⟩, htest⟩

/-- What stands behind a part of a text is seen in the rest. -/
theorem standsAt_byteLength (test : List Char → Bool) (a b : List Char) :
    standsAt test (a ++ b) (byteLength a) = test b := by
  rw [standsAt, splitAtByte?_byteLength]
  rfl

/-- In the back of a text the front is not seen. -/
theorem standsAt_byteLength_add (test : List Char → Bool) (a b : List Char) (i : Nat) :
    standsAt test (a ++ b) (byteLength a + i) = standsAt test b i := by
  rw [Bool.eq_iff_iff, standsAt_iff, standsAt_iff]
  constructor
  · rintro ⟨before, after, htext, hlen, htest⟩
    obtain ⟨inside, rfl, rfl⟩ := exists_append_of_byteLength_le htext (by omega)
    rw [byteLength_append] at hlen
    exact ⟨inside, after, rfl, by omega, htest⟩
  · rintro ⟨before, after, rfl, rfl, htest⟩
    exact ⟨a ++ before, after, by simp, byteLength_append a before, htest⟩

/-- In the front of a text the back is part of what follows. -/
theorem standsAt_append {a : List Char} {i : Nat} (hi : i ≤ byteLength a)
    (test : List Char → Bool) (b : List Char) :
    standsAt test (a ++ b) i = standsAt (fun after ↦ test (after ++ b)) a i := by
  rw [Bool.eq_iff_iff, standsAt_iff, standsAt_iff]
  constructor
  · rintro ⟨before, after, htext, hlen, htest⟩
    obtain ⟨inside, rfl, rfl⟩ := exists_append_of_byteLength_le htext.symm (by omega)
    exact ⟨before, inside, rfl, hlen, htest⟩
  · rintro ⟨before, after, rfl, hlen, htest⟩
    exact ⟨before, after ++ b, by simp, hlen, htest⟩

/-! ### One line -/

theorem dropFinalReturn_concat (a : List Char) : dropFinalReturn (a ++ ['\r']) = a := by
  rw [dropFinalReturn, List.getLast?_concat, if_pos rfl, List.dropLast_concat]

/-- **What a line loses is its final carriage return.** -/
theorem isFinalReturn_iff {a : List Char} {i : Nat} (hi : i < byteLength a) :
    isFinalReturn a i ↔ byteLength (dropFinalReturn a) ≤ i := by
  rw [isFinalReturn, standsAt_iff]
  constructor
  · rintro ⟨before, after, rfl, rfl, hafter⟩
    rw [beq_iff_eq.1 hafter, dropFinalReturn_concat]
  · intro hle
    by_cases hlast : a.getLast? = some '\r'
    · obtain ⟨before, rfl⟩ := List.getLast?_eq_some_iff.1 hlast
      have hsize : '\r'.utf8Size = 1 := rfl
      rw [dropFinalReturn_concat] at hle
      rw [byteLength_append, byteLength_cons, hsize, byteLength_nil] at hi
      exact ⟨before, ['\r'], rfl, by omega, rfl⟩
    · rw [dropFinalReturn, if_neg hlast] at hle
      omega

/-- Without a newline there is no terminator. -/
theorem isTerminator_of_notMem {a : List Char} (ha : '\n' ∉ a) (i : Nat) :
    isTerminator a i = false := by
  rw [Bool.eq_false_iff, isTerminator, Ne, standsAt_iff]
  rintro ⟨before, after, rfl, -, hafter⟩
  unfold startsTerminator at hafter
  split at hafter <;> simp at ha hafter

/-- In front of a newline the carriage return that a line loses belongs to the terminator. -/
theorem isTerminator_append_newline {a : List Char} (ha : '\n' ∉ a) {i : Nat}
    (hi : i < byteLength a) (b : List Char) :
    isTerminator (a ++ '\n' :: b) i = isFinalReturn a i := by
  rw [isTerminator, standsAt_append (Nat.le_of_lt hi), isFinalReturn, Bool.eq_iff_iff,
    standsAt_iff, standsAt_iff]
  constructor
  · rintro ⟨before, after, rfl, hlen, hafter⟩
    refine ⟨before, after, rfl, hlen, ?_⟩
    match after with
    | [] =>
      rw [List.append_nil] at hi
      omega
    | ['\r'] => rfl
    | c :: d :: after =>
      -- a newline further on in the line would be needed
      unfold startsTerminator at hafter
      split at hafter <;> simp_all
    | [c] =>
      unfold startsTerminator at hafter
      split at hafter <;> simp_all
  · rintro ⟨before, after, rfl, hlen, hafter⟩
    obtain rfl := beq_iff_eq.1 hafter
    exact ⟨before, ['\r'], rfl, hlen, rfl⟩

theorem isTerminator_newline (a b : List Char) : isTerminator (a ++ '\n' :: b) (byteLength a) :=
  standsAt_iff.2 ⟨a, '\n' :: b, rfl, rfl, rfl⟩

/-- The text does not end in front of a newline. -/
theorem isFinalReturn_append_newline {a : List Char} {i : Nat} (hi : i ≤ byteLength a)
    (b : List Char) : isFinalReturn (a ++ '\n' :: b) i = false := by
  rw [isFinalReturn, standsAt_append hi, Bool.eq_false_iff, Ne, standsAt_iff]
  rintro ⟨before, after, -, -, hafter⟩
  cases after <;> simp at hafter

/-- Behind a newline stands what stands in the text that follows it. -/
theorem standsAt_append_newline (test : List Char → Bool) (a b : List Char) (i : Nat) :
    standsAt test (a ++ '\n' :: b) (byteLength a + 1 + i) = standsAt test b i := by
  have hsize : '\n'.utf8Size = 1 := rfl
  have h := standsAt_byteLength_add test (a ++ ['\n']) b i
  rwa [List.append_assoc, List.singleton_append, byteLength_append, byteLength_cons, hsize,
    byteLength_nil] at h

namespace Line

/-- A line that is shifted contains the shifted bytes. -/
theorem contains_shift {line : Line} {bytes i : Nat} :
    (line.shift bytes).Contains (bytes + i) ↔ line.Contains i := by
  simp only [Contains, shift]
  omega

theorem not_contains_shift {line : Line} {bytes i : Nat} (hi : i < bytes) :
    ¬(line.shift bytes).Contains i := by
  simp only [Contains, shift]
  omega

end Line

theorem Line.countP_map_shift_of_lt (lines : List Line) {bytes i : Nat} (hi : i < bytes) :
    (lines.map (shift bytes)).countP (fun line ↦ line.Contains i) = 0 := by
  refine List.countP_eq_zero.2 fun line hline ↦ ?_
  obtain ⟨line, -, rfl⟩ := List.mem_map.1 hline
  simp [not_contains_shift hi]

theorem Line.countP_map_shift_add (lines : List Line) (bytes i : Nat) :
    (lines.map (shift bytes)).countP (fun line ↦ line.Contains (bytes + i)) =
      lines.countP fun line ↦ line.Contains i := by
  rw [List.countP_map]
  exact List.countP_congr fun line _ ↦ by simp [contains_shift]

/-- Of a line without newlines all bytes but the final carriage return are in the line. -/
theorem contains_dropFinalReturn_iff {a : List Char} {i : Nat} (hi : i < byteLength a) :
    (Line.mk 0 (dropFinalReturn a)).Contains i ↔ ¬isFinalReturn a i := by
  rw [isFinalReturn_iff hi]
  simp only [Line.Contains]
  omega

/-- **Each byte of a text is in one line, unless it ends one.** -/
theorem countP_lines (text : List Char) (i : Nat) :
    (lines text).countP (fun line ↦ line.Contains i) =
      if i < byteLength text ∧ ¬isTerminator text i ∧ ¬isFinalReturn text i then 1 else 0 := by
  have hsize : '\n'.utf8Size = 1 := rfl
  induction text using lineInduction generalizing i with
  | one a ha =>
    have hdrop := byteLength_dropFinalReturn_le a
    rw [lines_of_notMem ha, List.countP_singleton, isTerminator_of_notMem ha]
    by_cases hi : i < byteLength a
    · simp [hi, contains_dropFinalReturn_iff]
    · have hout : ¬(Line.mk 0 (dropFinalReturn a)).Contains i := by
        simp only [Line.Contains]
        omega
      simp [hi, hout]
  | more a b ha ih =>
    have hdrop := byteLength_dropFinalReturn_le a
    have hlen : byteLength (a ++ '\n' :: b) = byteLength a + 1 + byteLength b := by
      rw [byteLength_append, byteLength_cons, hsize, Nat.add_assoc]
    rw [lines_append_newline, lines_of_notMem ha, List.singleton_append, List.countP_cons, hlen]
    rcases Nat.lt_or_ge i (byteLength a + 1) with hi | hi
    · -- in the first line or its terminator: the others start behind it
      rw [Line.countP_map_shift_of_lt _ hi, Nat.zero_add]
      rcases Nat.lt_or_ge i (byteLength a) with hfront | hnewline
      · have hall : i < byteLength a + 1 + byteLength b := by omega
        rw [isTerminator_append_newline ha hfront, isFinalReturn_append_newline (by omega)]
        simp [hall, contains_dropFinalReturn_iff hfront]
      · obtain rfl : i = byteLength a := by omega
        have hout : ¬(Line.mk 0 (dropFinalReturn a)).Contains (byteLength a) := by
          simp only [Line.Contains]
          omega
        simp [hout, isTerminator_newline]
    · -- behind the first newline: in the text that follows
      obtain ⟨j, rfl⟩ := Nat.exists_eq_add_of_le hi
      have hfirst : ¬(Line.mk 0 (dropFinalReturn a)).Contains (byteLength a + 1 + j) := by
        simp only [Line.Contains]
        omega
      rw [Line.countP_map_shift_add, ih, isTerminator, isFinalReturn, isTerminator, isFinalReturn,
        standsAt_append_newline, standsAt_append_newline]
      simp [hfirst]

/-- A character that is neither a newline nor a carriage return is in one of the lines. -/
theorem exists_line_of_eq {text before after : List Char} {c : Char}
    (h : text = before ++ c :: after) (hnewline : c ≠ '\n') (hreturn : c ≠ '\r') :
    ∃ line ∈ lines text, ∃ inner outer, line.text = inner ++ c :: outer ∧
      byteLength before = line.offset + byteLength inner := by
  subst h
  have hterminator : isTerminator (before ++ c :: after) (byteLength before) = false := by
    rw [isTerminator, standsAt_byteLength]
    unfold startsTerminator
    split <;> simp_all
  have hfinal : isFinalReturn (before ++ c :: after) (byteLength before) = false := by
    rw [isFinalReturn, standsAt_byteLength]
    simp [hreturn]
  have hlt : byteLength before < byteLength (before ++ c :: after) := by
    have hpos := c.utf8Size_pos
    rw [byteLength_append, byteLength_cons]
    omega
  have hcount := countP_lines (before ++ c :: after) (byteLength before)
  rw [if_pos ⟨hlt, by simp [hterminator], by simp [hfinal]⟩] at hcount
  obtain ⟨line, hline, hcontains⟩ := List.countP_pos_iff.1 (hcount ▸ Nat.one_pos)
  obtain ⟨hstart, hstop⟩ := of_decide_eq_true hcontains
  obtain ⟨front, back, htext, hoffset, -⟩ := exists_append_of_mem_lines hline
  -- the cut in front of the character is one of the line, and not the one at its end
  obtain ⟨inner, rfl, hrest⟩ := exists_append_of_byteLength_le htext.symm (by omega)
  rw [byteLength_append, hoffset] at hstop
  obtain ⟨outer, hinner, hsplit⟩ := exists_append_of_byteLength_le hrest.symm (by omega)
  cases outer with
  | nil =>
    rw [hinner, List.append_nil] at hstop
    omega
  | cons d outer =>
    obtain ⟨rfl, -⟩ := List.cons.inj hsplit
    exact ⟨line, hline, inner, outer, hinner, by rw [byteLength_append, hoffset]⟩

end RonWorkbench.Text
