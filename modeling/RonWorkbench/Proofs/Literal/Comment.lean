import RonWorkbench.Proofs.Stack.Shape
import RonWorkbench.Proofs.Token.Inside

/-!
# Nested comments

A comment is read by counting: `Nesting.readLine` takes an opener or a closer where one starts and a
character elsewhere, adds one for an opener, takes one away for a closer, and stops behind the
closer that takes the count from one to zero. `tokenizeLine_blockComment` says that the scan of a
comment does just that, on one line and along any number of lines.

The scan takes text in runs, and a character that is half a mark alone, so a step of it is several
steps of the reading (`Nesting.exists_text`). It counts in words, and so does the reading when it is
started with a word; the count is a type parameter of the reading for that reason. A reading in
numbers is the same as long as no count on the way is too large for a word
(`Nesting.readLines_toNat`).
-/

namespace RonWorkbench

namespace Nesting

/-- An opener inside a comment. -/
def opener : Atom :=
  .mark ['/', '*'] .commentMark

/-- A closer inside a comment. -/
def closer : Atom :=
  .mark ['*', '/'] .commentMark

/-- Where a reading stops: at the end of the text with a count, or behind the last closer. -/
inductive Stop (α : Type)
  | atEnd (count : α)
  | closed (rest : List Char)
  deriving Repr, DecidableEq

/-- What is read of a comment, and where the reading stops. -/
structure Reading (α : Type) where
  atoms : List Atom
  stop : Stop α
  deriving Repr, DecidableEq

/-- The same reading with its count in another type. -/
def Reading.map {α β : Type} (f : α → β) (r : Reading α) : Reading β :=
  ⟨r.atoms, match r.stop with
    | .atEnd count => .atEnd (f count)
    | .closed rest => .closed rest⟩

/-- A reading with more atoms in front. -/
def Reading.behind {α : Type} (front : List Atom) (r : Reading α) : Reading α :=
  { r with atoms := front ++ r.atoms }

section Read

variable {α : Type} [Add α] [Sub α] [OfNat α 1] [DecidableEq α]

/-- Read the rest of a line inside a comment that is so many levels deep. -/
def readLine : α → List Char → Reading α
  | count, '/' :: '*' :: rest => (readLine (count + 1) rest).behind [opener]
  | count, '*' :: '/' :: rest =>
    if count = 1 then ⟨[closer], .closed rest⟩ else (readLine (count - 1) rest).behind [closer]
  | count, c :: rest => (readLine count rest).behind [.char c]
  | count, [] => ⟨[], .atEnd count⟩

/-- Read lines one after another, up to the one in which the comment is closed. -/
def readLines : α → List (List Char) → Reading α
  | count, [] => ⟨[], .atEnd count⟩
  | count, line :: lines =>
    let first := readLine count line
    match first.stop with
    | .atEnd count => (readLines count lines).behind first.atoms
    | .closed _ => first

end Read

/-- What becomes of the line behind a reading, with the constructs around the comment. -/
def Stop.after (below : Stack) : Stop UInt64 → LineTokens
  | .atEnd count => ⟨[], .blockComment count :: below⟩
  | .closed rest => tokenizeLine rest below

/-- Of the counts that atoms come to one after another, none is too large for a word. -/
def Fits (count : Nat) (atoms : List Atom) : Prop :=
  ∀ i ≤ atoms.length,
    count + (atoms.take i).count opener < 2 ^ 64 + (atoms.take i).count closer

instance (count : Nat) (atoms : List Atom) : Decidable (Fits count atoms) :=
  inferInstanceAs (Decidable (∀ i ≤ _, _))

/--
The depth that a comment is left at is the depth that it had, and one for each opener, less one for
each closer: in the arithmetic of words, and in that of numbers as long as the counts fit into
words, when the reading that counts in numbers is the same.
-/
structure Counts (depth : UInt64) (words : Reading UInt64) (numbers : Reading Nat) : Prop where
  word_count : ∀ count, words.stop = .atEnd count →
    count + UInt64.ofNat (words.atoms.count closer) =
      depth + UInt64.ofNat (words.atoms.count opener)
  number_count : 1 ≤ depth.toNat → Fits depth.toNat numbers.atoms →
    numbers = words.map UInt64.toNat ∧
      ∀ count, words.stop = .atEnd count → 1 ≤ count.toNat ∧
        count.toNat + words.atoms.count closer = depth.toNat + words.atoms.count opener

/-! ### Text of a comment -/

/-- Neither mark of a comment starts with the character. -/
def NoMark (c : Char) (rest : List Char) : Prop :=
  ¬(c = '/' ∧ rest.head? = some '*') ∧ ¬(c = '*' ∧ rest.head? = some '/')

/-- At an ordinary character no mark can begin. -/
theorem noMark_of_isCommentOrdinary {c : Char} (h : Lexeme.isCommentOrdinary c)
    (rest : List Char) : NoMark c rest := by
  simp only [Lexeme.isCommentOrdinary, Bool.and_eq_true, bne_iff_ne, ne_eq] at h
  exact ⟨fun hc ↦ h.1 hc.1, fun hc ↦ h.2 hc.1⟩

section Read

variable {α : Type} [Add α] [Sub α] [OfNat α 1] [DecidableEq α]

/-- A character at which no mark begins is text. -/
theorem readLine_char (count : α) {c : Char} {rest : List Char} (h : NoMark c rest) :
    readLine count (c :: rest) = (readLine count rest).behind [.char c] := by
  rw [readLine]
  · rintro more rfl rfl
    exact h.1 ⟨rfl, rfl⟩
  · rintro more rfl rfl
    exact h.2 ⟨rfl, rfl⟩

theorem readLine_ordinary (count : α) {text : List Char}
    (h : ∀ c ∈ text, Lexeme.isCommentOrdinary c) (rest : List Char) :
    readLine count (text ++ rest) = (readLine count rest).behind (text.map .char) := by
  induction text with
  | nil => rfl
  | cons c text ih =>
    obtain ⟨hc, htext⟩ := List.forall_mem_cons.1 h
    rw [List.cons_append, readLine_char count (noMark_of_isCommentOrdinary hc _), ih htext]
    rfl

end Read

/-- A step that takes text is as many steps of a reading. -/
theorem exists_text {α : Type} [Add α] [Sub α] [OfNat α 1] [DecidableEq α] {c : Char}
    {rest : List Char} (h : NoMark c rest) :
    ∃ text more, c :: rest = text ++ more ∧ text ≠ [] ∧
      Lexeme.insideComment? (c :: rest) = some (.commentText text) ∧
      ∀ count : α, readLine count (c :: rest) = (readLine count more).behind (text.map .char) := by
  have hread : Lexeme.insideComment? (c :: rest) =
      some (.commentText ((Lexeme.run? Lexeme.isCommentOrdinary (c :: rest)).getD [c])) := by
    rw [Lexeme.insideComment?]
    · rintro more rfl rfl
      exact h.1 ⟨rfl, rfl⟩
    · rintro more rfl rfl
      exact h.2 ⟨rfl, rfl⟩
  -- A run of ordinary characters is one text; a mark that leads nowhere is a text by itself.
  cases hrun : Lexeme.run? Lexeme.isCommentOrdinary (c :: rest) with
  | none =>
    rw [hrun] at hread
    exact ⟨[c], rest, rfl, by simp, hread, fun count ↦ readLine_char count h⟩
  | some text =>
    rw [hrun] at hread
    obtain ⟨more, hmore⟩ := Lexeme.isPrefix_of_run? hrun
    refine ⟨text, more, hmore.symm, Lexeme.ne_nil_of_run? hrun, hread, fun count ↦ ?_⟩
    rw [← hmore]
    exact readLine_ordinary count (fun d hd ↦ Lexeme.test_of_mem_run? hrun hd) more

/-! ### The scan of a comment -/

/-- What is left of the line behind a reading. -/
def Stop.rest {α : Type} : Stop α → List Char
  | .atEnd _ => []
  | .closed rest => rest

/-- The constructs that are open behind a reading. -/
def Stop.stack (below : Stack) : Stop UInt64 → Stack
  | .atEnd count => .blockComment count :: below
  | .closed _ => below

/-- Behind the end of the comment the line goes on as any line does. -/
theorem tokenizeLine_rest (below : Stack) (stop : Stop UInt64) :
    tokenizeLine stop.rest (stop.stack below) = stop.after below := by
  cases stop with
  | atEnd count => exact tokenizeLine_nil _
  | closed rest => rfl

/-- The scopes inside a comment do not tell how deep it is. -/
theorem scopes_blockComment (depth other : UInt64) (below : Stack) :
    Stack.scopes (.blockComment depth :: below) = Stack.scopes (.blockComment other :: below) := by
  simp [Frame.scope]

section Step

variable (depth : UInt64) (below : Stack)

/-- An opener inside the comment is one token, of the comment one deeper. -/
theorem scanStep_opener (rest : List Char) :
    scanStep (.blockComment depth :: below) '/' ('*' :: rest) =
      ⟨[⟨['/', '*'], .blockComment (depth + 1) :: below, some .commentMark⟩],
        .blockComment (depth + 1) :: below⟩ :=
  rfl

/-- A closer is one token, of the comment that it closes or makes one less deep. -/
theorem scanStep_closer (rest : List Char) :
    scanStep (.blockComment depth :: below) '*' ('/' :: rest) =
      ⟨[⟨['*', '/'], .blockComment depth :: below, some .commentMark⟩],
        if depth = 1 then below else .blockComment (depth - 1) :: below⟩ := by
  have hone : depth - 1 = 0 ↔ depth = 1 := by
    rw [UInt64.sub_eq_iff_eq_add, UInt64.zero_add]
  simp only [← hone]
  rfl

/-- Where neither mark starts, text is taken. -/
theorem scanStep_text {c : Char} {rest text : List Char}
    (h : Lexeme.insideComment? (c :: rest) = some (.commentText text)) :
    scanStep (.blockComment depth :: below) c rest =
      ⟨[⟨text, .blockComment depth :: below, none⟩], .blockComment depth :: below⟩ := by
  rw [scanStep, List.head?_cons, Lexeme.recognise?, h]
  simp [Lexeme.step, Lexeme.text, Lexeme.parts, Step.plain]

end Step

/-- **The scan of a comment reads what the reading reads.** -/
theorem scansInside_readLine (depth : UInt64) (below : Stack) (rest : List Char) :
    ScansInside (.blockComment depth :: below) rest (readLine depth rest).atoms
      ((readLine depth rest).stop.stack below) (readLine depth rest).stop.rest := by
  -- a step may take many characters, so the induction is on how many are left
  induction hlength : rest.length using Nat.strong_induction_on generalizing depth rest with
  | _ length ih =>
  subst hlength
  have hscopes (other : UInt64) := scopes_blockComment other depth below
  cases rest with
  | nil => exact .nil _
  | cons c rest =>
    by_cases hopen : c = '/' ∧ rest.head? = some '*'
    · obtain ⟨rfl, hhead⟩ := hopen
      obtain ⟨more, rfl⟩ := List.head?_eq_some_iff.1 hhead
      have hmore := ih more.length (by simp only [List.length_cons]; omega) (depth + 1) more rfl
      exact hmore.cons (scanStep_opener depth below more) rfl (hscopes _) (hscopes _)
    by_cases hclose : c = '*' ∧ rest.head? = some '/'
    · obtain ⟨rfl, hhead⟩ := hclose
      obtain ⟨more, rfl⟩ := List.head?_eq_some_iff.1 hhead
      have hstep := scanStep_closer depth below more
      rw [readLine]
      by_cases hone : depth = 1
      · rw [if_pos hone] at hstep ⊢
        exact ScansInside.last hstep rfl rfl rfl
      · have hmore := ih more.length (by simp only [List.length_cons]; omega) (depth - 1) more rfl
        rw [if_neg hone] at hstep ⊢
        exact hmore.cons hstep rfl rfl (hscopes _)
    · obtain ⟨text, more, htext, hne, hread, hcount⟩ := exists_text (α := UInt64) ⟨hopen, hclose⟩
      have hlt : more.length < (c :: rest).length := by
        rw [htext, List.length_append]
        exact Nat.lt_add_of_pos_left (List.length_pos_iff.2 hne)
      have hmore := ih more.length hlt depth more rfl
      rw [hcount]
      exact hmore.cons (scanStep_text depth below hread) htext rfl rfl

/-- The tokens of a line from a scan position inside a comment on. -/
theorem tokenizeLine_eq_after {s below : Stack} {line rest : List Char} {front : List Piece}
    {depth : UInt64} (hrun : Scans s line front (.blockComment depth :: below) rest)
    (hfront : Piece.EndsClassified front) :
    tokenizeLine line s = ((readLine depth rest).stop.after below).behind
      (Piece.join front ++
        Atom.pieces (.blockComment depth :: below) (readLine depth rest).atoms) := by
  rw [(scansInside_readLine depth below rest).tokenizeLine_eq hrun hfront, tokenizeLine_rest]

/-- A comment that is not closed on a line is carried to the next one. -/
theorem stack_tokenizeLine {depth count : UInt64} {line : List Char}
    (h : (readLine depth line).stop = .atEnd count) (below : Stack) :
    (tokenizeLine line (.blockComment depth :: below)).stack = .blockComment count :: below := by
  rw [tokenizeLine_eq_after (.refl _ line) Piece.endsClassified_nil, h]
  rfl

/-- A comment that no line closes is carried along all of them. -/
theorem afterLines_eq {depth count : UInt64} {lines : List (List Char)}
    (h : (readLines depth lines).stop = .atEnd count) (below : Stack) :
    Stack.afterLines (.blockComment depth :: below) lines = .blockComment count :: below := by
  induction lines generalizing depth with
  | nil =>
    obtain rfl := Stop.atEnd.inj h
    rfl
  | cons line lines ih =>
    rw [readLines] at h
    split at h
    · next next hnext =>
      rw [Stack.afterLines_cons, stack_tokenizeLine hnext]
      exact ih h
    · next rest hclosed =>
      rw [hclosed] at h
      simp at h

/-! ### Counting -/

/-- What was read before stands in front of what is read. -/
@[simp]
theorem atoms_behind {α : Type} (front : List Atom) (r : Reading α) :
    (r.behind front).atoms = front ++ r.atoms :=
  rfl

@[simp]
theorem stop_behind {α : Type} (front : List Atom) (r : Reading α) :
    (r.behind front).stop = r.stop :=
  rfl

/-- **Openers and closers balance**: the count at the end of a line is the one before it with the
openers added and the closers taken away. -/
theorem count_readLine {count n : Nat} {rest : List Char} (hpos : 1 ≤ count)
    (h : (readLine count rest).stop = .atEnd n) :
    1 ≤ n ∧ n + (readLine count rest).atoms.count closer =
      count + (readLine count rest).atoms.count opener := by
  fun_induction readLine count rest with
  | case1 count rest ih =>
    have := ih (by omega) h
    simp [opener, closer] at this ⊢
    omega
  | case2 rest => simp at h
  | case3 count rest hne ih =>
    have := ih (by omega) h
    simp [opener, closer] at this ⊢
    omega
  | case4 count c rest hopen hclose ih =>
    have := ih hpos h
    simpa [opener, closer] using this
  | case5 count =>
    obtain rfl := Stop.atEnd.inj h
    simp [hpos]

/-- What fits goes on to fit from the count that it has come to. -/
theorem Fits.of_append {count n : Nat} {front atoms : List Atom} (h : Fits count (front ++ atoms))
    (hn : n + front.count closer = count + front.count opener) : Fits n atoms := by
  intro i hi
  have := h (front.length + i) (by rw [List.length_append]; omega)
  rw [List.take_length_add_append, List.count_append, List.count_append] at this
  omega

theorem Fits.left {count : Nat} {front atoms : List Atom} (h : Fits count (front ++ atoms)) :
    Fits count front := by
  intro i hi
  have := h i (by rw [List.length_append]; omega)
  rwa [List.take_append_of_le_length hi] at this

/-- As long as the counts fit into words, words and numbers are read alike. -/
theorem readLine_toNat {depth : UInt64} {rest : List Char} (hpos : 1 ≤ depth.toNat)
    (hfits : Fits depth.toNat (readLine depth.toNat rest).atoms) :
    readLine depth.toNat rest = (readLine depth rest).map UInt64.toNat := by
  fun_induction readLine depth rest with
  | case1 depth rest ih =>
    rw [readLine] at hfits ⊢
    have hlt := hfits 1 (by simp)
    -- The opener is counted in what fits, so the word does not wrap.
    have hnext : (depth + 1).toNat = depth.toNat + 1 := by
      simp [opener, closer] at hlt
      rw [UInt64.toNat_add, UInt64.toNat_one, Nat.mod_eq_of_lt (by omega)]
    rw [← hnext] at hfits ⊢
    rw [ih (by omega) (hfits.of_append (by simp [opener, closer, hnext]))]
    rfl
  | case2 rest =>
    rw [readLine]
    rfl
  | case3 depth rest hne ih =>
    have hnext : (depth - 1).toNat = depth.toNat - 1 :=
      UInt64.toNat_sub_of_le _ _ (UInt64.le_iff_toNat_le.2 hpos)
    -- A count of one closes the comment, so it is not counted down to zero here.
    have hone : depth.toNat ≠ 1 := fun h ↦ hne (UInt64.toNat_inj.1 h)
    rw [readLine, if_neg hone, ← hnext] at hfits ⊢
    rw [ih (by omega) (hfits.of_append (by simp [opener, closer]; omega))]
    rfl
  | case4 depth c rest hopen hclose ih =>
    rw [readLine.eq_3 _ _ _ hopen hclose] at hfits ⊢
    rw [ih hpos (hfits.of_append (by simp [opener, closer]))]
    rfl
  | case5 depth => rfl

/-- **As long as the count fits a word, a word counts like a number.** -/
theorem readLines_toNat {depth : UInt64} {lines : List (List Char)} (hpos : 1 ≤ depth.toNat)
    (hfits : Fits depth.toNat (readLines depth.toNat lines).atoms) :
    readLines depth.toNat lines = (readLines depth lines).map UInt64.toNat := by
  induction lines generalizing depth with
  | nil => rfl
  | cons line lines ih =>
    have hline : Fits depth.toNat (readLine depth.toNat line).atoms := by
      rw [readLines] at hfits
      split at hfits
      · exact hfits.left
      · exact hfits
    have hfirst := readLine_toNat hpos hline
    rw [readLines, readLines]
    cases hstop : (readLine depth line).stop with
    | atEnd count =>
      have hnat : (readLine depth.toNat line).stop = .atEnd count.toNat := by
        rw [hfirst, Reading.map, hstop]
      obtain ⟨hone, hcount⟩ := count_readLine hpos hnat
      rw [readLines, hnat] at hfits
      rw [hnat]
      dsimp only at hfits ⊢
      rw [ih hone (hfits.of_append hcount), hfirst]
      rfl
    | closed rest =>
      have hnat : (readLine depth.toNat line).stop = .closed rest := by
        rw [hfirst, Reading.map, hstop]
      rw [hnat]
      exact hfirst

/-! ### Depths -/

/-- Over many lines openers and closers balance as well. -/
theorem count_readLines {count n : Nat} {lines : List (List Char)} (hpos : 1 ≤ count)
    (h : (readLines count lines).stop = .atEnd n) :
    1 ≤ n ∧ n + (readLines count lines).atoms.count closer =
      count + (readLines count lines).atoms.count opener := by
  induction lines generalizing count with
  | nil =>
    obtain rfl := Stop.atEnd.inj h
    exact ⟨hpos, rfl⟩
  | cons line lines ih =>
    rw [readLines] at h ⊢
    split at h
    · next next hnext =>
      obtain ⟨hone, hfirst⟩ := count_readLine hpos hnext
      obtain ⟨hn, hmore⟩ := ih hone h
      refine ⟨hn, ?_⟩
      rw [atoms_behind, List.count_append, List.count_append]
      omega
    · next rest hclosed => simp [hclosed] at h

/-- The count that a reading comes to, in words. -/
theorem word_count_readLine {depth count : UInt64} {rest : List Char}
    (h : (readLine depth rest).stop = .atEnd count) :
    count + UInt64.ofNat ((readLine depth rest).atoms.count closer) =
      depth + UInt64.ofNat ((readLine depth rest).atoms.count opener) := by
  fun_induction readLine depth rest with
  | case1 depth rest ih =>
    have := ih h
    simp [opener, closer] at this ⊢
    grind
  | case2 rest => simp at h
  | case3 depth rest hne ih =>
    have := ih h
    simp [opener, closer] at this ⊢
    grind
  | case4 depth c rest hopen hclose ih =>
    have := ih h
    simpa [opener, closer] using this
  | case5 depth =>
    obtain rfl := Stop.atEnd.inj h
    simp

/-- In a word they balance whether or not the count fits. -/
theorem word_count_readLines {depth count : UInt64} {lines : List (List Char)}
    (h : (readLines depth lines).stop = .atEnd count) :
    count + UInt64.ofNat ((readLines depth lines).atoms.count closer) =
      depth + UInt64.ofNat ((readLines depth lines).atoms.count opener) := by
  induction lines generalizing depth with
  | nil =>
    obtain rfl := Stop.atEnd.inj h
    rfl
  | cons line lines ih =>
    rw [readLines] at h ⊢
    split at h
    · next next hnext =>
      have hfirst := word_count_readLine hnext
      have hmore := ih h
      simp only [atoms_behind, List.count_append, UInt64.ofNat_add]
      grind
    · next rest hclosed => simp [hclosed] at h

/-- A word counts the depth wherever the number does. -/
theorem counts_readLines (depth : UInt64) (lines : List (List Char)) :
    Counts depth (readLines depth lines) (readLines depth.toNat lines) where
  word_count _ := word_count_readLines
  number_count hpos hfits := by
    have hnat := readLines_toNat hpos hfits
    refine ⟨hnat, fun count hstop ↦ ?_⟩
    have h := count_readLines (n := count.toNat) hpos (by rw [hnat, Reading.map, hstop])
    rwa [hnat] at h

theorem readLines_singleton {α : Type} [Add α] [Sub α] [OfNat α 1] [DecidableEq α] (count : α)
    (line : List Char) : readLines count [line] = readLine count line := by
  rw [readLines]
  cases hstop : (readLine count line).stop with
  | atEnd n =>
    simp only [readLines, Reading.behind, List.append_nil]
    rw [← hstop]
  | closed rest => rfl

/--
**Comments are nested by counting.** From a scan position inside a comment on, at the start of a
line or behind a mark, the tokens of the line are the marks and the stretches between them that a
reading finds. Behind the closer of the last level the line goes on with the constructs around the
comment; otherwise the comment is carried with the count that the reading comes to. So it is along
any lines that do not close the comment, and on the line behind them.
-/
theorem tokenizeLine_blockComment :
    (∀ {s below : Stack} {line rest : List Char} {front : List Piece} {depth : UInt64},
      Scans s line front (.blockComment depth :: below) rest → Piece.EndsClassified front →
        tokenizeLine line s = ((readLine depth rest).stop.after below).behind
          (Piece.join front ++
            Atom.pieces (.blockComment depth :: below) (readLine depth rest).atoms) ∧
        Counts depth (readLine depth rest) (readLine depth.toNat rest)) ∧
    ∀ (below : Stack) {lines : List (List Char)} {depth count : UInt64},
      (readLines depth lines).stop = .atEnd count →
        Stack.afterLines (.blockComment depth :: below) lines = .blockComment count :: below ∧
        Counts depth (readLines depth lines) (readLines depth.toNat lines) ∧
        ∀ line, tokenizeLine line (Stack.afterLines (.blockComment depth :: below) lines) =
          ((readLine count line).stop.after below).behind
            (Atom.pieces (.blockComment count :: below) (readLine count line).atoms) := by
  constructor
  · intro s below line rest front depth hrun hfront
    have hcounts := counts_readLines depth [rest]
    rw [readLines_singleton, readLines_singleton] at hcounts
    exact ⟨tokenizeLine_eq_after hrun hfront, hcounts⟩
  · intro below lines depth count hstop
    have hafter := afterLines_eq hstop below
    refine ⟨hafter, counts_readLines depth lines, fun line ↦ ?_⟩
    rw [hafter, tokenizeLine_eq_after (.refl _ line) Piece.endsClassified_nil]
    rfl

/--
Marks that share characters: behind the opener on the line `[/*/*/ **/*/]` a second one starts at
once, and only the last of the closers ends the comment. And a mark that a line break cuts in two
is none: the comment of the lines `/*`, `*/ *` and `/ */` is closed at the very end.
-/
theorem tokenizeLine_blockComment_shared_characters :
    (Scans [] ['[', '/', '*', '/', '*', '/', ' ', '*', '*', '/', '*', '/', ']']
        [⟨['['], [.group .brackets], some .brackets⟩,
          ⟨['/', '*'], [.blockComment 1, .group .brackets], some .commentMark⟩]
        [.blockComment 1, .group .brackets] ['/', '*', '/', ' ', '*', '*', '/', '*', '/', ']'] ∧
      tokenizeLine ['[', '/', '*', '/', '*', '/', ' ', '*', '*', '/', '*', '/', ']'] [] =
        (tokenizeLine [']'] [.group .brackets]).behind
          [⟨['['], [.group .brackets], some .brackets⟩,
            ⟨['/', '*'], [.blockComment 1, .group .brackets], some .commentMark⟩,
            ⟨['/', '*'], [.blockComment 1, .group .brackets], some .commentMark⟩,
            ⟨['/', ' ', '*'], [.blockComment 1, .group .brackets], none⟩,
            ⟨['*', '/'], [.blockComment 1, .group .brackets], some .commentMark⟩,
            ⟨['*', '/'], [.blockComment 1, .group .brackets], some .commentMark⟩]) ∧
    ((readLines 1 [['/', '*'], ['*', '/', ' ', '*']]).stop = .atEnd (1 : UInt64) ∧
      Fits 1 (readLines 1 [['/', '*'], ['*', '/', ' ', '*']]).atoms ∧
      readLines 1 [['/', '*'], ['*', '/', ' ', '*']] =
        (readLines (1 : UInt64) [['/', '*'], ['*', '/', ' ', '*']]).map UInt64.toNat ∧
      (tokenizeLine ['/', ' ', '*', '/']
        (Stack.afterLines [.blockComment 1] [['/', '*'], ['*', '/', ' ', '*']])).stack = []) := by
  have hrun : Scans [] ['[', '/', '*', '/', '*', '/', ' ', '*', '*', '/', '*', '/', ']']
      [⟨['['], [.group .brackets], some .brackets⟩,
        ⟨['/', '*'], [.blockComment 1, .group .brackets], some .commentMark⟩]
      [.blockComment 1, .group .brackets] ['/', '*', '/', ' ', '*', '*', '/', '*', '/', ']'] :=
    (Scans.one [] '[' _).trans (Scans.one [.group .brackets] '/' _)
  have hfront : Piece.EndsClassified [⟨['['], [.group .brackets], some .brackets⟩,
      ⟨['/', '*'], [.blockComment 1, .group .brackets], some .commentMark⟩] := by
    simp [Piece.EndsClassified, Piece.isPlain]
  have hstop : (readLines 1 [['/', '*'], ['*', '/', ' ', '*']]).stop = .atEnd (1 : UInt64) := by
    decide
  have hfits : Fits 1 (readLines 1 [['/', '*'], ['*', '/', ' ', '*']]).atoms := by decide
  obtain ⟨htokens, -⟩ := tokenizeLine_blockComment.1 hrun hfront
  obtain ⟨-, hcounts, hnext⟩ := tokenizeLine_blockComment.2 [] hstop
  refine ⟨⟨hrun, htokens⟩, hstop, hfits, (hcounts.number_count (by decide) hfits).1, ?_⟩
  rw [hnext]
  show (tokenizeLine [] []).stack = []
  rw [tokenizeLine_nil]
  rfl

end Nesting

end RonWorkbench
