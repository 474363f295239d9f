import RonWorkbench.Proofs.Document.Resume
import RonWorkbench.Proofs.Literal.Comment
import RonWorkbench.Proofs.Literal.Raw
import RonWorkbench.Proofs.Stack.Reachable

/-!
# Closing a document

Whatever a text leaves open is closed by one more line (`Stack.closingLine`), the counterpart of the
line that opens a stack: the closers of the constructs from the innermost to the outermost, that of
a comment as often as the comment is deep. `Document.ofText_append_closingLine` says that behind
this line nothing is open, and that the line is made of delimiters.

Unlike an opener a closer is not read whatever follows it, for the quote of a raw string takes all
hashes behind it. The string is closed all the same, since no closer starts with a hash
(`Frame.head?_fullClosing_append`). So a line is read closer by closer for every stack of constructs
that can be carried from line to line (`Stack.scans_closingLine`); that literals are innermost is
not needed here.
-/

namespace RonWorkbench

/-- The scopes of the delimiters that can close a construct on a line behind its opener's. -/
def Scope.closingMarks : List Scope :=
  [commentMark, stringMark, parens, brackets, braces]

namespace Frame

/-- The text that closes the construct as it is: the closer of a comment once for each level. -/
def fullClosing : Frame → List Char
  | blockComment depth => (List.replicate depth.toNat ['*', '/']).flatten
  | f => f.closing

variable {f : Frame}

/-- All but a comment are closed by one closer. -/
theorem fullClosing_of_ne (hf : ∀ depth, f ≠ .blockComment depth) : f.fullClosing = f.closing := by
  cases f with
  | blockComment depth => exact absurd rfl (hf depth)
  | _ => rfl

/-- No character of a closing ends a line. -/
theorem ne_of_mem_fullClosing {c : Char} (hc : c ∈ f.fullClosing) : c ≠ '\n' ∧ c ≠ '\r' := by
  cases f with
  | blockComment depth =>
    obtain ⟨closer, hcloser, hmem⟩ := List.mem_flatten.1 hc
    have hmark : c = '*' ∨ c = '/' := by simpa [List.eq_of_mem_replicate hcloser] using hmem
    rcases hmark with rfl | rfl <;> decide
  | rawQuoted hashes byte =>
    rcases List.mem_cons.1 hc with rfl | hhash
    · decide
    · rw [List.eq_of_mem_replicate hhash]
      decide
  | group kind =>
    rw [List.mem_singleton.1 hc]
    cases kind <;> decide
  | quoted byte | character byte =>
    rw [List.mem_singleton.1 hc]
    decide

/-- No closing starts with a hash. -/
theorem head?_fullClosing_append {more : List Char} (hmore : more.head? ≠ some '#') :
    (f.fullClosing ++ more).head? ≠ some '#' := by
  cases f with
  | blockComment depth =>
    cases hdepth : depth.toNat with
    | zero => simpa [fullClosing, hdepth] using hmore
    | succ levels => simp [fullClosing, hdepth, List.replicate_succ]
  | group kind => cases kind <;> simp [fullClosing, closing, Bracket.closer]
  | _ => simp [fullClosing, closing]

/-- What the closing line closes it closes with a closing mark. -/
theorem mark_mem_closingMarks (hf : f.isCarried ∨ f.isLiteral = false) :
    f.mark ∈ Scope.closingMarks := by
  cases f with
  | group kind => cases kind <;> decide
  | character byte => simp [isCarried, isLiteral] at hf
  | _ => simp [mark, Scope.closingMarks]

end Frame

/-! ### Runs over closers -/

/-- A scan reads the closer of a construct that is closed at once, and the construct is closed. -/
theorem scans_closing {f : Frame} (hf : ∀ depth, f ≠ .blockComment depth) (below : Stack)
    {more : List Char} (hmore : more.head? ≠ some '#') :
    Scans (f :: below) (f.closing ++ more) [⟨f.closing, f :: below, some f.mark⟩] below more := by
  have hrun {c : Char} {line : List Char} (hline : f.closing = c :: line)
      (hstep : scanStep (f :: below) c (line ++ more) =
        ⟨[⟨f.closing, f :: below, some f.mark⟩], below⟩) :
      Scans (f :: below) (f.closing ++ more) [⟨f.closing, f :: below, some f.mark⟩] below more := by
    have hstart : c :: (line ++ more) = f.closing ++ more := by rw [hline, List.cons_append]
    rw [← hstart]
    exact scans_of_scanStep hstep hstart
  cases f with
  | blockComment depth => exact absurd rfl (hf depth)
  | rawQuoted hashes byte =>
    refine hrun rfl (RawString.scanStep_closer hashes byte below ?_)
    rw [Lexeme.takeWhile_hashRun_append hashes hmore, Lexeme.length_hashRun]
  | group kind => cases kind <;> exact hrun rfl rfl
  | quoted byte | character byte => exact hrun rfl rfl

/-- Inside a comment a scan reads as many closers as there are levels, and the comment is closed. -/
theorem scans_unnesting {levels : Nat} {depth : UInt64} (hdepth : depth.toNat = levels + 1)
    (below : Stack) (more : List Char) :
    ∃ pieces, Scans (.blockComment depth :: below)
      ((List.replicate depth.toNat ['*', '/']).flatten ++ more) pieces below more ∧
        ∀ p ∈ pieces, p.leaf = some .commentMark := by
  -- The depth is a word, so the induction is on the number that it stands for.
  induction levels generalizing depth with
  | zero =>
    obtain rfl : depth = 1 := UInt64.toNat_inj.1 hdepth
    have hstep := Nesting.scanStep_closer 1 below more
    rw [if_pos rfl] at hstep
    exact ⟨_, scans_of_scanStep hstep rfl, by simp⟩
  | succ levels ih =>
    have hne : depth ≠ 1 := by
      rintro rfl
      simp at hdepth
    have hless : (depth - 1).toNat = levels + 1 := by
      have hone : (1 : UInt64) ≤ depth := UInt64.le_iff_toNat_le.2 (by simp [hdepth])
      rw [UInt64.toNat_sub_of_le _ _ hone, hdepth, UInt64.toNat_one, Nat.add_sub_cancel]
    obtain ⟨pieces, hrun, hleaf⟩ := ih hless
    have hstep := Nesting.scanStep_closer depth below
      ((List.replicate (depth - 1).toNat ['*', '/']).flatten ++ more)
    rw [if_neg hne] at hstep
    have hfirst := (scans_of_scanStep hstep rfl).trans hrun
    rw [hless] at hfirst
    rw [hdepth, List.replicate_succ]
    exact ⟨_, hfirst, List.forall_mem_cons.2 ⟨rfl, hleaf⟩⟩

/-- A scan reads the full closing of a group or of a carried literal, and the construct is closed.
-/
theorem scans_fullClosing {f : Frame} (hf : f.isCarried ∨ f.isLiteral = false) (below : Stack)
    {more : List Char} (hmore : more.head? ≠ some '#') :
    ∃ pieces, Scans (f :: below) (f.fullClosing ++ more) pieces below more ∧
      ∀ p ∈ pieces, p.leaf = some f.mark := by
  -- only a comment is closed in more than one step
  by_cases hcomment : ∃ depth, f = .blockComment depth
  · obtain ⟨depth, rfl⟩ := hcomment
    have hpos : 1 ≤ depth.toNat :=
      of_decide_eq_true (hf.resolve_right (by simp [Frame.isLiteral]))
    exact scans_unnesting (Nat.sub_add_cancel hpos).symm below more
  · have hne : ∀ depth, f ≠ .blockComment depth := fun depth h ↦ hcomment ⟨depth, h⟩
    rw [Frame.fullClosing_of_ne hne]
    exact ⟨_, scans_closing hne below hmore, by simp⟩

/-! ### Closing a stack -/

namespace Stack

/-- A line that closes all constructs of the stack from the innermost to the outermost. -/
def closingLine (s : Stack) : List Char :=
  s.flatMap Frame.fullClosing

theorem closingLine_cons (f : Frame) (s : Stack) :
    closingLine (f :: s) = f.fullClosing ++ closingLine s :=
  List.flatMap_cons

/-- A closing line is one line, without a return. -/
theorem ne_of_mem_closingLine {s : Stack} {c : Char} (hc : c ∈ s.closingLine) :
    c ≠ '\n' ∧ c ≠ '\r' := by
  obtain ⟨f, -, hmem⟩ := List.mem_flatMap.1 hc
  exact Frame.ne_of_mem_fullClosing hmem

theorem head?_closingLine (s : Stack) : s.closingLine.head? ≠ some '#' := by
  induction s with
  | nil => simp [closingLine]
  | cons f below ih =>
    rw [closingLine_cons]
    exact Frame.head?_fullClosing_append ih

/-- **The closing line of a stack is scanned down to the empty stack**, and it is all delimiters. -/
theorem scans_closingLine {s : Stack} (h : ∀ f ∈ s, f.isCarried ∨ f.isLiteral = false) :
    ∃ pieces, Scans s s.closingLine pieces [] [] ∧
      ∀ p ∈ pieces, ∃ f ∈ s, p.leaf = some f.mark := by
  induction s with
  | nil => exact ⟨[], .refl [] [], by simp⟩
  | cons f below ih =>
    obtain ⟨hf, hbelow⟩ := List.forall_mem_cons.1 h
    obtain ⟨others, hothers, hleaves⟩ := ih hbelow
    obtain ⟨pieces, hpieces, hleaf⟩ := scans_fullClosing hf below (head?_closingLine below)
    refine ⟨pieces ++ others, ?_, List.forall_mem_append.2 ⟨fun p hp ↦ ?_, fun p hp ↦ ?_⟩⟩
    · rw [closingLine_cons]
      exact hpieces.trans hothers
    · exact ⟨f, List.mem_cons_self, hleaf p hp⟩
    · obtain ⟨g, hg, hmark⟩ := hleaves p hp
      exact ⟨g, List.mem_cons_of_mem _ hg, hmark⟩

/-- Between lines the open literals are those that are carried over lines. -/
theorem WellShaped.isCarried_or {s : Stack} (h : s.WellShaped) :
    ∀ f ∈ s, f.isCarried ∨ f.isLiteral = false := by
  cases h with
  | groups h => exact fun f hf ↦ .inr (h f hf)
  | literal hf h => exact List.forall_mem_cons.2 ⟨.inl hf, fun g hg ↦ .inr (h g hg)⟩

end Stack

/-! ### Closing a document -/

/-- A token that is cut off as a delimiter has the scope of the delimiter as its leaf. -/
theorem Token.leaf_eq_of_scopes {t : Token} {p : Piece} {leaf : Scope} (h : t.scopes = p.scopes)
    (hleaf : p.leaf = some leaf) : t.leaf = leaf := by
  rw [Token.leaf, h, Piece.scopes, hleaf, Option.toList_some, List.getLast?_concat]
  rfl

/-- Behind the closing line nothing is open, and its tokens are delimiters of what was open. -/
theorem Stack.WellShaped.tokenizeLine_closingLine {s : Stack} (h : s.WellShaped) :
    (tokenizeLine s.closingLine s).stack = [] ∧
      ∀ t ∈ (tokenizeLine s.closingLine s).tokens, ∃ f ∈ s, t.leaf = f.mark := by
  obtain ⟨pieces, hrun, hleaves⟩ := scans_closingLine h.isCarried_or
  constructor
  · rw [tokenizeLine_stack, hrun.scan_eq_of_nil]
    rfl
  · intro t ht
    obtain ⟨p, hp, hscopes⟩ := exists_mem_scan_of_mem_tokenizeLine ht
    rw [hrun.scan_eq_of_nil] at hp
    obtain ⟨f, hf, hleaf⟩ := hleaves p hp
    exact ⟨f, hf, Token.leaf_eq_of_scopes hscopes hleaf⟩

namespace Document

/-- One more line is classified from the stack at the end of the document. -/
theorem ofText_append_line (text : List Char) {line : List Char}
    (h : ∀ c ∈ line, c ≠ '\n' ∧ c ≠ '\r') :
    ofText (text ++ '\n' :: line) =
      ⟨(ofText text).lines ++ [⟨(ofText text).lines.length, Text.byteLength text + 1, line,
          (tokenizeLine line (ofText text).stack).tokens⟩],
        (tokenizeLine line (ofText text).stack).stack⟩ := by
  have hnewline : '\n' ∉ line := fun hmem ↦ (h _ hmem).1 rfl
  have hreturn : Text.dropFinalReturn line = line :=
    if_neg fun hlast ↦ (h _ (List.mem_of_getLast? hlast)).2 rfl
  have hline : resume (ofText text).stack line =
      ⟨[⟨0, 0, line, (tokenizeLine line (ofText text).stack).tokens⟩],
        (tokenizeLine line (ofText text).stack).stack⟩ := by
    rw [resume, Text.lines_of_notMem hnewline, hreturn]
    rfl
  have happend := resume_append_newline [] text line
  rw [show resume [] text = ofText text from rfl, hline, List.map_singleton, Line.shift,
    Nat.zero_add, Nat.zero_add] at happend
  exact happend

theorem wellShaped_ofText {text : List Char} (h : Text.byteLength text < 2 ^ 64) :
    (ofText text).stack.WellShaped := by
  rw [stack_ofText]
  refine Stack.wellShaped_afterLines (Nat.lt_of_le_of_lt ?_ h)
  rw [List.map_map]
  exact Text.sum_byteLength_lines_le text

/--
**Every document is closed by one more line.** Behind the closers of what a text leaves open, on a
line of their own, nothing is open. The line is added to the lines of the text, which stay as they
are, and each of its tokens is a delimiter of a construct that was open, none an invalid closer.

The bound is that of a text in memory: the depth of a comment is counted in a word.
-/
theorem ofText_append_closingLine {text : List Char} (h : Text.byteLength text < 2 ^ 64) :
    let opened := ofText text
    let closed := ofText (text ++ '\n' :: opened.stack.closingLine)
    closed.stack = [] ∧ closed.unterminated? = none ∧
      ∃ tokens, closed.lines = opened.lines ++
          [⟨opened.lines.length, Text.byteLength text + 1, opened.stack.closingLine, tokens⟩] ∧
        ∀ t ∈ tokens, (∃ f ∈ opened.stack, t.leaf = f.mark) ∧ t.leaf ∈ Scope.closingMarks ∧
          t.leaf ≠ .invalid := by
  intro opened closed
  have hshape : opened.stack.WellShaped := wellShaped_ofText h
  obtain ⟨hstack, htokens⟩ := hshape.tokenizeLine_closingLine
  have hclosed : closed = _ := ofText_append_line text fun c ↦ Stack.ne_of_mem_closingLine
  have hempty : closed.stack = [] := by rw [hclosed, hstack]
  refine ⟨hempty, ?_, _, congrArg lines hclosed, fun t ht ↦ ?_⟩
  · rw [unterminated?, hempty]
    rfl
  · obtain ⟨f, hf, hleaf⟩ := htokens t ht
    have hmark : t.leaf ∈ Scope.closingMarks := by
      rw [hleaf]
      exact Frame.mark_mem_closingMarks (hshape.isCarried_or f hf)
    refine ⟨⟨f, hf, hleaf⟩, hmark, fun hinvalid ↦ ?_⟩
    rw [hinvalid] at hmark
    exact absurd hmark (by decide)

/--
A raw string with two hashes in a list in a map, whose closer takes the hashes but not the brackets,
and a comment of two levels in a parenthesis.
-/
theorem ofText_append_closingLine_raw_string_and_comment :
    Text.byteLength ['{', '[', 'r', '#', '#', '"'] < 2 ^ 64 ∧
    (ofText ['{', '[', 'r', '#', '#', '"']).stack =
      [.rawQuoted 2 false, .group .brackets, .group .braces] ∧
    (ofText (['{', '[', 'r', '#', '#', '"'] ++ ['\n', '"', '#', '#', ']', '}'])).stack = [] ∧
    Text.byteLength ['(', '/', '*', '/', '*', '\r', '\n'] < 2 ^ 64 ∧
    (ofText ['(', '/', '*', '/', '*', '\r', '\n']).stack = [.blockComment 2, .group .parens] ∧
    (ofText (['(', '/', '*', '/', '*', '\r', '\n'] ++
      ['\n', '*', '/', '*', '/', ')'])).unterminated? = none := by
  have hraw : (ofText ['{', '[', 'r', '#', '#', '"']).stack =
      [.rawQuoted 2 false, .group .brackets, .group .braces] := by decide +kernel
  have hcomment : (ofText ['(', '/', '*', '/', '*', '\r', '\n']).stack =
      [.blockComment 2, .group .parens] := by decide +kernel
  have hrawLine : (ofText ['{', '[', 'r', '#', '#', '"']).stack.closingLine =
      ['"', '#', '#', ']', '}'] := by decide +kernel
  have hcommentLine : (ofText ['(', '/', '*', '/', '*', '\r', '\n']).stack.closingLine =
      ['*', '/', '*', '/', ')'] := by decide +kernel
  refine ⟨by decide, hraw, ?_, by decide, hcomment, ?_⟩
  · rw [← hrawLine]
    exact (ofText_append_closingLine (by decide)).1
  · rw [← hcommentLine]
    exact (ofText_append_closingLine (by decide)).2.1

end Document

end RonWorkbench
