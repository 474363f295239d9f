import RonWorkbench.Proofs.Document.Lines
import RonWorkbench.Proofs.Document.Resume
import RonWorkbench.Proofs.Stack.Shape
import RonWorkbench.Proofs.Text.Terminator
import RonWorkbench.Proofs.Token.Inside

/-!
# A text in the tokens of its document

In `Document.tokens` all tokens of a document stand one behind the other and count from the start of
the text.

How many of them have a given byte is told in two steps: the tokens of a line are a partition of the
line (`Token.countP_contains_tokenizeLine`), and so it is one token for each line that has the byte
(`Document.countP_tokens`). Which bytes are in a line is a matter of the text alone
(`Text.countP_lines`).

What a token is, is decided by the scan of its line, which cuts off pieces (`Document.CutsOff`):
each token begins with a piece (`Document.exists_startsWith`), and each piece is in a token that has
its scopes (`Document.exists_mem_tokens_of_cutsOff`).
-/

namespace RonWorkbench

namespace Token

/-- The byte is one of the token's. -/
def Contains (t : Token) (i : Nat) : Prop :=
  t.start ≤ i ∧ i < t.stop

instance (t : Token) (i : Nat) : Decidable (t.Contains i) :=
  inferInstanceAs (Decidable (_ ∧ _))

/-- A token that is shifted contains the shifted bytes. -/
theorem contains_shift {t : Token} {bytes i : Nat} :
    (t.shift bytes).Contains (bytes + i) ↔ t.Contains i := by
  simp only [Contains, shift]
  omega

theorem not_contains_shift {t : Token} {bytes i : Nat} (hi : i < bytes) :
    ¬(t.shift bytes).Contains i := by
  simp only [Contains, shift]
  omega

theorem countP_map_shift_of_lt (tokens : List Token) {bytes i : Nat} (hi : i < bytes) :
    (tokens.map (shift bytes)).countP (fun t ↦ t.Contains i) = 0 := by
  refine List.countP_eq_zero.2 fun t ht ↦ ?_
  obtain ⟨t, -, rfl⟩ := List.mem_map.1 ht
  simp [not_contains_shift hi]

theorem countP_map_shift_add (tokens : List Token) (bytes i : Nat) :
    (tokens.map (shift bytes)).countP (fun t ↦ t.Contains (bytes + i)) =
      tokens.countP fun t ↦ t.Contains i := by
  rw [List.countP_map]
  exact List.countP_congr fun t _ ↦ by simp [contains_shift]

/-- A partition of a line does not go beyond its end. -/
theorem le_of_isPartition {length cursor : Nat} {spans : List (Nat × Nat)}
    (h : isPartition length cursor spans) : cursor ≤ length := by
  induction spans generalizing cursor with
  | nil => exact Nat.le_of_eq (by simpa [isPartition] using h)
  | cons span spans ih =>
    rw [isPartition, Bool.and_eq_true, Bool.and_eq_true, beq_iff_eq, decide_eq_true_eq] at h
    have hle := ih h.2
    omega

/-- **A partition has each byte of its line once.** -/
theorem countP_contains_of_isPartition {length cursor : Nat} {tokens : List Token}
    (h : isPartition length cursor (tokens.map fun t ↦ (t.start, t.stop))) (i : Nat) :
    tokens.countP (fun t ↦ t.Contains i) = if cursor ≤ i ∧ i < length then 1 else 0 := by
  induction tokens generalizing cursor with
  | nil =>
    have hcursor : cursor = length := by simpa [isPartition] using h
    rw [if_neg (by omega), List.countP_nil]
  | cons t tokens ih =>
    rw [List.map_cons, isPartition, Bool.and_eq_true, Bool.and_eq_true, beq_iff_eq,
      decide_eq_true_eq] at h
    obtain ⟨⟨rfl, hlt⟩, hmore⟩ := h
    have hle := le_of_isPartition hmore
    rw [List.countP_cons, ih hmore]
    by_cases hi : t.Contains i
    · obtain ⟨hstart, hstop⟩ := hi
      rw [if_neg (by omega), if_pos (decide_eq_true ⟨hstart, hstop⟩), if_pos (by omega)]
    · -- a byte that is not in the first token is behind its start if it is behind its stop
      have hbehind : t.stop ≤ i ∧ i < length ↔ t.start ≤ i ∧ i < length := by
        simp only [Contains] at hi
        omega
      rw [if_congr hbehind rfl rfl, decide_eq_false hi]
      rfl

/-- In the tokens of a line each of its bytes is in one token. -/
theorem countP_contains_tokenizeLine (line : List Char) (s : Stack) (i : Nat) :
    (tokenizeLine line s).tokens.countP (fun t ↦ t.Contains i) =
      if i < Text.byteLength line then 1 else 0 := by
  have h := countP_contains_of_isPartition (covers_tokenizeLine line s).isPartition i
  simpa using h

end Token

namespace Document

/-- The tokens of all lines in their order, counted from the start of the text. -/
def tokens (d : Document) : List Token :=
  d.lines.flatMap fun line ↦ line.tokens.map (Token.shift line.offset)

/-- A token of a document is one of a line, shifted to where the line starts. -/
theorem mem_tokens_iff {d : Document} {t : Token} :
    t ∈ d.tokens ↔ ∃ line ∈ d.lines, ∃ u ∈ line.tokens, t = u.shift line.offset := by
  simp only [tokens, List.mem_flatMap, List.mem_map, eq_comm]

/-! ### The bytes of tokens -/

/-- A line of a document has a byte in as many tokens as the text has it in that line. -/
theorem Line.countP_contains (line : Text.Line) (s : Stack) (i : Nat) :
    ((tokenizeLine line.text s).tokens.map (Token.shift line.offset)).countP
        (fun t ↦ t.Contains i) = if line.Contains i then 1 else 0 := by
  rcases Nat.lt_or_ge i line.offset with hi | hi
  · rw [Token.countP_map_shift_of_lt _ hi, if_neg fun h ↦ by have := h.1; omega]
  · obtain ⟨j, rfl⟩ := Nat.exists_eq_add_of_le hi
    rw [Token.countP_map_shift_add, Token.countP_contains_tokenizeLine]
    simp [Text.Line.Contains]

/-- **A byte is in as many tokens as it is in lines**, for the tokens of a line partition it. -/
theorem Line.countP_classify (number : Nat) (s : Stack) (lines : List Text.Line) (i : Nat) :
    ((classify number s lines).1.flatMap fun line ↦
        line.tokens.map (Token.shift line.offset)).countP (fun t ↦ t.Contains i) =
      lines.countP fun line ↦ line.Contains i := by
  induction lines generalizing number s with
  | nil => rfl
  | cons line lines ih =>
    rw [classify, List.flatMap_cons, List.countP_append, ih, Line.countP_contains,
      List.countP_cons, Nat.add_comm]
    simp

/-- **A byte is in one token for each line that has it.** -/
theorem countP_tokens (text : List Char) (i : Nat) :
    (ofText text).tokens.countP (fun t ↦ t.Contains i) =
      (Text.lines text).countP fun line ↦ line.Contains i :=
  Line.countP_classify 0 [] (Text.lines text) i

/-- No two tokens have a byte in common. -/
theorem eq_of_contains {text : List Char} {t u : Token} (ht : t ∈ (ofText text).tokens)
    (hu : u ∈ (ofText text).tokens) {i : Nat} (hti : t.Contains i) (hui : u.Contains i) :
    t = u := by
  have hcount : ((ofText text).tokens.filter fun t ↦ t.Contains i).length ≤ 1 := by
    rw [← List.countP_eq_length_filter, countP_tokens, Text.countP_lines]
    split <;> omega
  have hmem {w : Token} (hw : w ∈ (ofText text).tokens) (hwi : w.Contains i) :
      w ∈ (ofText text).tokens.filter fun t ↦ t.Contains i :=
    List.mem_filter.2 ⟨hw, decide_eq_true hwi⟩
  have hpos := List.length_pos_of_mem (hmem ht hti)
  obtain ⟨v, hv⟩ := List.length_eq_one_iff.1 (Nat.le_antisymm hcount hpos)
  rw [hv] at hmem
  rw [List.mem_singleton.1 (hmem ht hti), List.mem_singleton.1 (hmem hu hui)]

/-! ### Where a token comes from -/

/--
The scan of a line cuts the piece off at the byte; it starts from the stack that the lines in front
of the line leave.
-/
def CutsOff (text : List Char) (start : Nat) (p : Piece) : Prop :=
  ∃ front line back done after,
    Text.lines text = front ++ line :: back ∧
      (scan (Stack.afterLines [] (front.map Text.Line.text)) line.text).1 = done ++ p :: after ∧
        start = line.offset + Text.byteLength (Piece.textOf done)

/-- The character at the byte is one of the piece, which the scan of a line cuts off. -/
def StandsIn (text : List Char) (i : Nat) (c : Char) (p : Piece) : Prop :=
  ∃ start inner outer,
    CutsOff text start p ∧ p.text = inner ++ c :: outer ∧ i = start + Text.byteLength inner

/-- The token begins with the piece. -/
def StartsWith (text : List Char) (t : Token) (p : Piece) : Prop :=
  CutsOff text t.start p ∧ t.scopes = p.scopes

/-- What a scan of a line cuts off, it cuts off from a stack that is nested well. -/
theorem CutsOff.exists_mem_scan {text : List Char} {start : Nat} {p : Piece}
    (h : CutsOff text start p) : ∃ s line, Stack.Nested s ∧ p ∈ (scan s line).1 := by
  obtain ⟨front, line, back, done, after, -, hpieces, -⟩ := h
  refine ⟨_, line.text, Stack.nested_nil.afterLines (front.map Text.Line.text), ?_⟩
  rw [hpieces]
  exact List.mem_append_right _ List.mem_cons_self

/-- Each line is tokenized behind the stack that the lines before it leave. -/
theorem Line.exists_mem_classify (number : Nat) (s : Stack) (front : List Text.Line)
    (line : Text.Line) (back : List Text.Line) :
    ∃ place, ⟨place, line.offset, line.text,
        (tokenizeLine line.text (s.afterLines (front.map Text.Line.text))).tokens⟩ ∈
      (classify number s (front ++ line :: back)).1 := by
  refine ⟨number + front.length, ?_⟩
  rw [classify_append]
  exact List.mem_append_right _ List.mem_cons_self

/-- Each token begins with a piece of the scan of its line. -/
theorem exists_startsWith {text : List Char} {t : Token} (ht : t ∈ (ofText text).tokens) :
    ∃ p, StartsWith text t p := by
  obtain ⟨line, hline, u, hu, rfl⟩ := mem_tokens_iff.1 ht
  obtain ⟨front, back, hlines, htokens⟩ := Line.exists_front_of_mem_classify hline
  rw [htokens] at hu
  obtain ⟨done, p, rest, hpieces, hstart, hscopes⟩ := exists_scan_eq_of_mem_tokenizeLine hu
  refine ⟨p, ⟨front, line.bare, back, done, rest, hlines, hpieces, ?_⟩, hscopes⟩
  show u.start + line.offset = line.offset + _
  rw [hstart, Nat.add_comm]

/-- Each piece that a scan cuts off is in a token, which has its scopes. -/
theorem exists_mem_tokens_of_cutsOff {text : List Char} {start : Nat} {p : Piece}
    (h : CutsOff text start p) :
    ∃ t ∈ (ofText text).tokens, t.scopes = p.scopes ∧
      t.start ≤ start ∧ start + Text.byteLength p.text ≤ t.stop := by
  obtain ⟨front, line, back, done, after, hlines, hpieces, rfl⟩ := h
  obtain ⟨number, hline⟩ := Line.exists_mem_classify 0 [] front line back
  rw [← hlines] at hline
  obtain ⟨before, q, rest, inner, outer, hjoin, hdone, htext, hscopes⟩ :=
    Piece.exists_join_eq_append done p after
  have htoken := Token.mem_layout 0 before q rest
  rw [← hjoin, ← hpieces] at htoken
  refine ⟨_, mem_tokens_iff.2 ⟨_, hline, _, htoken, rfl⟩, hscopes, ?_, ?_⟩
  · simp only [Token.shift, hdone, Text.byteLength_append]
    omega
  · simp only [Token.shift, hdone, htext, Text.byteLength_append]
    omega

/-- A character that ends no line stands in the text of one. -/
theorem exists_standsIn {text before after : List Char} {c : Char}
    (h : text = before ++ c :: after) (hnewline : c ≠ '\n') (hreturn : c ≠ '\r') :
    ∃ p, StandsIn text (Text.byteLength before) c p := by
  obtain ⟨line, hline, inner, outer, hinner, hoffset⟩ := Text.exists_line_of_eq h hnewline hreturn
  obtain ⟨front, back, hlines⟩ := List.append_of_mem hline
  have hscan := textOf_scan (Stack.afterLines [] (front.map Text.Line.text)) line.text
  obtain ⟨done, p, rest, left, right, hpieces, htext, rfl⟩ :=
    Piece.exists_of_textOf_eq (hscan.trans hinner)
  refine ⟨p, _, left, right, ⟨front, line, back, done, rest, hlines, hpieces, rfl⟩, htext, ?_⟩
  rw [hoffset, Text.byteLength_append, Nat.add_assoc]

/-! ### The texts of lines and tokens -/

/-- A line's text is cut out of the document where the line is. -/
theorem slice?_of_mem_lines {text : List Char} {line : Line} (h : line ∈ (ofText text).lines) :
    Text.slice? line.offset (line.offset + Text.byteLength line.text) text = some line.text := by
  obtain ⟨before, after, htext, hoffset, -⟩ := Text.exists_append_of_mem_lines (bare_mem_lines h)
  exact Text.slice?_eq_some_iff.2 ⟨before, after, htext, hoffset, rfl⟩

/--
**The bytes of a text and the tokens of its document.** A byte that ends no line is in one token of
one line, and every other byte is in none; and the text of a line is what the text has at its
offset. Besides terminators only a carriage return at the very end of the text ends a line.
-/
theorem tokens_cover_text (text : List Char) :
    (∀ i, (ofText text).tokens.countP (fun t ↦ t.Contains i) =
      if i < Text.byteLength text ∧ ¬Text.isTerminator text i ∧ ¬Text.isFinalReturn text i
      then 1 else 0) ∧
    (ofText text).lines.map (fun line ↦
        Text.slice? line.offset (line.offset + Text.byteLength line.text) text) =
      (ofText text).lines.map fun line ↦ some line.text := by
  refine ⟨fun i ↦ ?_, List.map_congr_left fun line hline ↦ slice?_of_mem_lines hline⟩
  rw [countP_tokens, Text.countP_lines]

/-- A carriage return alone is no terminator, and yet no token has it. -/
theorem tokens_cover_text_final_return :
    0 < Text.byteLength ['\r'] ∧ ¬Text.isTerminator ['\r'] 0 ∧
      (ofText ['\r']).tokens.countP (fun t ↦ t.Contains 0) = 0 := by
  decide +kernel

end Document

end RonWorkbench
