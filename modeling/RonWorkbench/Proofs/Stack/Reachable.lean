import RonWorkbench.Proofs.Stack.Shape

/-!
# The stacks that lines can leave

The stacks that lines leave, scanned one after another from the empty stack, are exactly the well
shaped ones (`reachable_stacks`): groups only, or groups with one literal innermost that is carried
to the next line. One direction is the pair of invariants of a scan, read at the end of a line.
For the other an opening line is built from the stack (`Stack.openingLine`): the openers of its
groups from the outermost to the innermost, then the opener of the literal, that of a comment as
often as the comment is deep. Such a line is read back frame by frame (`scans_opening`), since no
other reading of value position starts with an opener.
-/

namespace RonWorkbench

/-! ### Reading openers -/

namespace Lexeme

/-- The lexeme of an opener. -/
def ofOpening : Frame → Lexeme
  | .blockComment _ => commentOpen
  | .quoted byte => quoteOpen byte
  | .rawQuoted hashes byte => rawOpen byte hashes
  | .character byte => characterOpen byte
  | .group kind => groupOpen kind

/-- In front of something that is no hash a run of hashes ends. -/
theorem takeWhile_hashRun_append (hashes : Nat) {more : List Char} (hmore : more.head? ≠ some '#') :
    (hashRun hashes ++ more).takeWhile (· == '#') = hashRun hashes := by
  have hstop : more.takeWhile (· == '#') = [] := by
    cases more with
    | nil => rfl
    | cons c more => simpa using hmore
  rw [List.takeWhile_append_of_pos (by simp [hashRun]), hstop, List.append_nil]

/-- The opening of a raw string is recognised with all its hashes. -/
theorem rawOpen?_opening (byte : Bool) (hashes : Nat) (more : List Char) :
    rawOpen? (byteMark byte ++ 'r' :: (hashRun hashes ++ '"' :: more)) =
      some (rawOpen byte hashes) := by
  have htake : (hashRun hashes ++ '"' :: more).takeWhile (· == '#') = hashRun hashes :=
    takeWhile_hashRun_append hashes (by simp)
  have hdrop : (hashRun hashes ++ '"' :: more).drop hashes = '"' :: more := by
    rw [List.drop_append_of_le_length (by simp), List.drop_of_length_le (by simp),
      List.nil_append]
  cases byte <;> simp [rawOpen?, splitByteMark, byteMark, htake, hdrop]

/-- In value position an opener is read as what it is, whatever follows it. -/
theorem inValue?_opening (f : Frame) (more : List Char) :
    inValue? (f.opening ++ more) = some (ofOpening f) := by
  cases f with
  | blockComment depth => rfl
  | quoted byte => cases byte <;> rfl
  | rawQuoted hashes byte =>
    have hraw := rawOpen?_opening byte hashes more
    cases byte <;>
      simp_all [inValue?, opener?, lineComment?, commentOpen?, innerAttribute?, Frame.opening,
        ofOpening, byteMark]
  | character byte => cases byte <;> rfl
  | group kind => cases kind <;> rfl

/-- Where no literal is open a lexeme is one of value position. -/
theorem recognise?_of_inValue {s : Stack} (hs : s.InValue) (rest : List Char) :
    recognise? s.head? rest = inValue? rest := by
  cases s with
  | nil => rfl
  | cons f below =>
    cases f with
    | group kind => rfl
    | _ => exact absurd (hs _ rfl) (by simp [Frame.isLiteral])

/-- A fresh construct is what its opener opens. -/
theorem step_ofOpening (s : Stack) {f : Frame} (hf : f.IsFresh) :
    step s (ofOpening f) = .openFrame s f f.mark f.opening := by
  cases f with
  | blockComment depth =>
    obtain rfl := hf depth rfl
    rfl
  | _ => simp [ofOpening, step, text, parts, Frame.mark, Frame.opening]

end Lexeme

/-! ### Runs over openers -/

theorem Frame.opening_ne_nil (f : Frame) : f.opening ≠ [] := by
  cases f <;> simp [Frame.opening]

/-- In value position a scan reads the opener of a construct, and the construct is open. -/
theorem scans_opening {s : Stack} (hs : s.InValue) {f : Frame} (hf : f.IsFresh)
    (more : List Char) :
    Scans s (f.opening ++ more) [⟨f.opening, f :: s, some f.mark⟩] (f :: s) more := by
  obtain ⟨c, line, hline⟩ := List.exists_cons_of_ne_nil f.opening_ne_nil
  have hstep : scanStep s c (line ++ more) = .openFrame s f f.mark f.opening := by
    have hread := Lexeme.inValue?_opening f more
    rw [hline, List.cons_append] at hread
    rw [scanStep, Lexeme.recognise?_of_inValue hs, hread]
    exact Lexeme.step_ofOpening s hf
  have hstart : c :: (line ++ more) = f.opening ++ more := by rw [hline, List.cons_append]
  rw [← hstart]
  exact scans_of_scanStep hstep hstart

/-- Inside a comment a scan reads further openers, each of which adds a level. -/
theorem scans_nesting (levels : Nat) (depth : UInt64) (below : Stack) (more : List Char) :
    ∃ pieces, Scans (.blockComment depth :: below)
      ((List.replicate levels ['/', '*']).flatten ++ more) pieces
      (.blockComment (depth + UInt64.ofNat levels) :: below) more := by
  induction levels generalizing depth with
  | zero => exact ⟨[], by simpa using Scans.refl (.blockComment depth :: below) more⟩
  | succ levels ih =>
    obtain ⟨pieces, hrun⟩ := ih (depth + 1)
    have hdepth : depth + 1 + UInt64.ofNat levels = depth + UInt64.ofNat (levels + 1) := by
      rw [Nat.add_comm levels, UInt64.ofNat_add, UInt64.add_assoc]
      rfl
    have hstep : scanStep (.blockComment depth :: below) '/'
        ('*' :: ((List.replicate levels ['/', '*']).flatten ++ more)) =
          .classify (.blockComment (depth + 1) :: below) .commentMark ['/', '*'] := rfl
    have hall := (scans_of_scanStep hstep rfl).trans hrun
    rw [hdepth] at hall
    exact ⟨_, hall⟩

/-! ### Opening a stack -/

namespace Frame

/-- The text that opens the construct as it is: the opener of a comment once for each level. -/
def fullOpening : Frame → List Char
  | blockComment depth => (List.replicate depth.toNat ['/', '*']).flatten
  | f => f.opening

/-- A literal that a line can leave open for the next: all but a character literal. -/
def isCarried : Frame → Bool
  | blockComment depth => decide (1 ≤ depth.toNat)
  | quoted _ | rawQuoted _ _ => true
  | character _ | group _ => false

/-- Only a comment has a depth to be opened to. -/
theorem fullOpening_of_ne {f : Frame} (hf : ∀ depth, f ≠ .blockComment depth) :
    f.fullOpening = f.opening := by
  cases f with
  | blockComment depth => exact absurd rfl (hf depth)
  | _ => rfl

theorem newline_notMem_fullOpening (f : Frame) : '\n' ∉ f.fullOpening := by
  cases f with
  | blockComment depth => simp [fullOpening]
  | quoted byte => cases byte <;> decide
  | rawQuoted hashes byte =>
    cases byte <;> simp [fullOpening, opening, Lexeme.byteMark, Lexeme.hashRun]
  | character byte => cases byte <;> decide
  | group kind => cases kind <;> decide

end Frame

/-- In value position a scan reads the full opening of a construct, and the construct is open. -/
theorem scans_fullOpening {s : Stack} (hs : s.InValue) {f : Frame}
    (hf : f.isCarried ∨ f.isLiteral = false) (more : List Char) :
    ∃ pieces, Scans s (f.fullOpening ++ more) pieces (f :: s) more := by
  -- only a comment is opened in more than one step
  by_cases hcomment : ∃ depth, f = .blockComment depth
  · obtain ⟨depth, rfl⟩ := hcomment
    have hpos : 1 ≤ depth.toNat :=
      of_decide_eq_true (hf.resolve_right (by simp [Frame.isLiteral]))
    obtain ⟨levels, hlevels⟩ := Nat.exists_eq_add_of_le hpos
    have hopen := scans_opening hs (f := .blockComment 1) (by simp [Frame.IsFresh])
      ((List.replicate levels ['/', '*']).flatten ++ more)
    obtain ⟨pieces, hnest⟩ := scans_nesting levels 1 s more
    have hdepth : (1 : UInt64) + UInt64.ofNat levels = depth := by
      rw [← UInt64.ofNat_toNat (x := depth), hlevels, UInt64.ofNat_add]
      rfl
    rw [hdepth] at hnest
    have htext : (Frame.blockComment depth).fullOpening ++ more =
        (Frame.blockComment 1).opening ++ ((List.replicate levels ['/', '*']).flatten ++ more) := by
      simp [Frame.fullOpening, hlevels, Nat.add_comm 1, List.replicate_succ, Frame.opening]
    exact ⟨_, htext ▸ hopen.trans hnest⟩
  · have hne : ∀ depth, f ≠ .blockComment depth := fun depth h ↦ hcomment ⟨depth, h⟩
    rw [Frame.fullOpening_of_ne hne]
    exact ⟨_, scans_opening hs (fun depth h ↦ absurd h (hne depth)) more⟩

namespace Stack

/-- The stacks between lines: groups only, or groups and one carried literal inside them. -/
inductive WellShaped : Stack → Prop
  | groups {s : Stack} (h : ∀ f ∈ s, f.isLiteral = false) : WellShaped s
  | literal {f : Frame} {s : Stack} (hf : f.isCarried) (h : ∀ g ∈ s, g.isLiteral = false) :
      WellShaped (f :: s)

/-- A line that opens all constructs of the stack from the outermost to the innermost. -/
def openingLine (s : Stack) : List Char :=
  s.reverse.flatMap Frame.fullOpening

theorem openingLine_cons (f : Frame) (s : Stack) :
    openingLine (f :: s) = openingLine s ++ f.fullOpening := by
  simp [openingLine]

theorem newline_notMem_openingLine (s : Stack) : '\n' ∉ s.openingLine := by
  simp only [openingLine, List.mem_flatMap, not_exists, not_and]
  exact fun f _ ↦ f.newline_notMem_fullOpening

/-- Among groups alone the scan is in value position. -/
theorem inValue_of_groups {s : Stack} (h : ∀ f ∈ s, f.isLiteral = false) : s.InValue :=
  fun f hf ↦ h f (List.mem_of_mem_head? hf)

/-- A scan reads the openers of groups one after another. -/
theorem scans_groups {s : Stack} (h : ∀ f ∈ s, f.isLiteral = false) (more : List Char) :
    ∃ pieces, Scans [] (openingLine s ++ more) pieces s more := by
  -- the outermost opener is read first, so what is left to read grows with the induction
  induction s generalizing more with
  | nil => exact ⟨[], .refl [] more⟩
  | cons f below ih =>
    have hbelow : ∀ g ∈ below, g.isLiteral = false := fun g hg ↦ h g (List.mem_cons_of_mem _ hg)
    obtain ⟨pieces, hrun⟩ := ih hbelow (f.fullOpening ++ more)
    obtain ⟨others, hopen⟩ :=
      scans_fullOpening (inValue_of_groups hbelow) (.inr (h f List.mem_cons_self)) more
    refine ⟨pieces ++ others, ?_⟩
    rw [openingLine_cons, List.append_assoc]
    exact hrun.trans hopen

/-- The opening line of a well shaped stack is scanned up to that stack. -/
theorem WellShaped.scans_openingLine {s : Stack} (h : s.WellShaped) :
    ∃ pieces, Scans [] (openingLine s) pieces s [] := by
  cases h with
  | groups h =>
    obtain ⟨pieces, hrun⟩ := scans_groups h []
    exact ⟨pieces, by simpa using hrun⟩
  | @literal f s hf h =>
    obtain ⟨pieces, hrun⟩ := scans_groups h (f.fullOpening ++ [])
    obtain ⟨others, hopen⟩ := scans_fullOpening (inValue_of_groups h) (.inl hf) []
    refine ⟨pieces ++ others, ?_⟩
    rw [openingLine_cons, ← List.append_nil f.fullOpening]
    exact hrun.trans hopen

/-! ### Between lines -/

theorem WellShaped.endLine_eq {s : Stack} (h : s.WellShaped) : s.endLine = s := by
  have keep {f : Frame} {below : Stack} (hf : f.isLineLocal = false) :
      endLine (f :: below) = f :: below := by
    rw [endLine, List.dropWhile_cons, if_neg (by simp [hf])]
  cases h with
  | groups h =>
    cases s with
    | nil => rfl
    | cons f below =>
      cases f with
      | group kind => exact keep rfl
      | _ => exact absurd (h _ List.mem_cons_self) (by simp [Frame.isLiteral])
  | @literal f s hf h =>
    cases f with
    | character byte => simp [Frame.isCarried] at hf
    | _ => exact keep rfl

/-- The two invariants of a scan, where no character literal is innermost. -/
theorem wellShaped_of_nested {s : Stack} {bound : Nat} (hs : s.Nested)
    (hdepth : s.DepthWithin bound) (hlocal : ∀ f ∈ s.head?, f.isLineLocal = false) :
    s.WellShaped := by
  cases s with
  | nil => exact .groups (by simp)
  | cons f below =>
    cases f with
    | group kind => exact .groups (hs.isLiteral_of_inValue (by simp [InValue, Frame.isLiteral]))
    | blockComment depth => exact .literal (decide_eq_true (hdepth depth List.mem_cons_self).1) hs
    | character byte => exact absurd (hlocal _ rfl) (by simp [Frame.isLineLocal])
    | quoted byte => exact .literal rfl hs
    | rawQuoted hashes byte => exact .literal rfl hs

/-- What is innermost at the end of a line is no character literal. -/
theorem isLineLocal_of_mem_head?_endLine {s : Stack} {f : Frame} (hf : f ∈ s.endLine.head?) :
    f.isLineLocal = false := by
  have h := List.head?_dropWhile_not Frame.isLineLocal s
  rw [← endLine, Option.mem_def.1 hf] at h
  simpa using h

/-- Lines that start with no construct open leave a stack without a character literal. -/
theorem isLineLocal_of_mem_head?_afterLines (lines : List (List Char)) {s : Stack}
    (hs : ∀ f ∈ s.head?, f.isLineLocal = false) :
    ∀ f ∈ (s.afterLines lines).head?, f.isLineLocal = false := by
  induction lines generalizing s with
  | nil => exact hs
  | cons line lines ih => exact ih fun f hf ↦ isLineLocal_of_mem_head?_endLine hf

/-- **Whatever lines leave is well shaped**, unless they have `2 ^ 64` bytes. -/
theorem wellShaped_afterLines {lines : List (List Char)}
    (h : (lines.map Text.byteLength).sum < 2 ^ 64) : WellShaped (afterLines [] lines) := by
  have hdepth : DepthWithin (0 + 0 / 2) [] := by simp [DepthWithin]
  exact wellShaped_of_nested (nested_nil.afterLines lines) (hdepth.afterLines (by omega))
    (isLineLocal_of_mem_head?_afterLines lines (by simp))

/-- **And whatever is well shaped is left by some line.** -/
theorem WellShaped.exists_line {s : Stack} (h : s.WellShaped) :
    ∃ line, '\n' ∉ line ∧ (tokenizeLine line []).stack = s := by
  obtain ⟨pieces, hrun⟩ := h.scans_openingLine
  refine ⟨openingLine s, newline_notMem_openingLine s, ?_⟩
  rw [tokenizeLine_stack, hrun.scan_eq_of_nil, h.endLine_eq]

/-- Where only the innermost construct can be a literal, the open literal is just that one. -/
theorem Nested.openLiteral?_eq_some_iff {s : Stack} (h : s.Nested) {f : Frame} :
    s.openLiteral? = some f ↔ s.head? = some f ∧ f.isLiteral := by
  cases s with
  | nil => simp [openLiteral?]
  | cons g below =>
    rw [openLiteral?, List.find?_cons]
    split
    · next hg =>
      simp only [List.head?_cons, Option.some.injEq]
      exact ⟨fun heq ↦ ⟨heq, heq ▸ hg⟩, And.left⟩
    · next hg =>
      have hnone : below.find? Frame.isLiteral = none :=
        List.find?_eq_none.2 fun e he ↦ by simp [h e he]
      rw [hnone]
      simp only [List.head?_cons, Option.some.injEq, reduceCtorEq, false_iff, not_and]
      rintro rfl
      simp [hg]

end Stack

/--
**The stacks between lines are the well shaped ones.** After any lines from the empty stack, fewer
than `2 ^ 64` bytes in all, the stack is well shaped; at each scan position of a further line, too,
only the innermost construct can be a literal. So the literal that a document leaves open is its
innermost construct, if that is one. And some line leaves each well shaped stack.
-/
theorem reachable_stacks :
    (∀ lines : List (List Char), (lines.map Text.byteLength).sum < 2 ^ 64 →
      (Stack.afterLines [] lines).WellShaped) ∧
    (∀ (lines : List (List Char)) (line rest : List Char) (pieces : List Piece) (u : Stack),
      Scans (Stack.afterLines [] lines) line pieces u rest → ∀ f ∈ u.tail, f.isLiteral = false) ∧
    (∀ (text : List Char) (f : Frame), (Document.ofText text).unterminated? = some f ↔
      (Document.ofText text).stack.head? = some f ∧ f.isLiteral) ∧
    ∀ s : Stack, s.WellShaped → ∃ line, '\n' ∉ line ∧ (tokenizeLine line []).stack = s := by
  refine ⟨fun _ ↦ Stack.wellShaped_afterLines, ?_, ?_, fun _ ↦ Stack.WellShaped.exists_line⟩
  · intro lines line rest pieces u hrun
    exact (Stack.nested_nil.afterLines lines).of_scans hrun
  · intro text f
    rw [Document.unterminated?, Document.stack_ofText]
    exact (Stack.nested_nil.afterLines _).openLiteral?_eq_some_iff

/-- Two lines inside a list: a character literal is dropped, a comment of two levels is carried. -/
theorem reachable_stacks_comment_in_list :
    ([['[', '\''], ['/', '*', '/', '*']].map Text.byteLength).sum < 2 ^ 64 ∧
    (Stack.afterLines [] [['[', '\''], ['/', '*', '/', '*']]).WellShaped ∧
    (∀ f ∈ (scan (Stack.afterLines [] [['[', '\'']]) ['/', '*']).2.tail, f.isLiteral = false) ∧
    ∃ line, '\n' ∉ line ∧
      (tokenizeLine line []).stack = [.blockComment 2, .group .brackets] := by
  refine ⟨by decide, reachable_stacks.1 _ (by decide), ?_, ?_⟩
  · exact reachable_stacks.2.1 [['[', '\'']] ['/', '*'] _ _ _ (scans_scan _ _)
  · exact reachable_stacks.2.2.2 _ (.literal (by decide) (by decide))

end RonWorkbench
