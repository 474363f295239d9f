import RonWorkbench.Proofs.Stack.Shape
import RonWorkbench.Proofs.Text.Lines
import RonWorkbench.Proofs.Token.Cover

/-!
# The tokens of a document in its text

The lines of a document are the lines of its text, each with the tokens of a line
(`Document.map_bare_lines`, `Document.Line.exists_front_of_mem_classify`). So each token is a
stretch of the text that ends with its line at the latest, and the tokens of a document follow each
other in the text.
-/

namespace RonWorkbench

/-- The tokens of a line follow each other. -/
theorem Token.pairwise_layout (offset : Nat) (pieces : List Piece) :
    (layout offset pieces).Pairwise fun a b ↦ a.stop ≤ b.start := by
  induction pieces generalizing offset with
  | nil => exact List.Pairwise.nil
  | cons p pieces ih =>
    rw [layout, List.pairwise_cons]
    refine ⟨fun t ht ↦ ?_, ih _⟩
    obtain ⟨before, q, after, -, hstart, -, -⟩ := exists_of_mem_layout ht
    rw [hstart]
    exact Nat.le_add_right _ _

namespace Document

namespace Line

/-- The line of the text alone. -/
def bare (line : Line) : Text.Line :=
  ⟨line.offset, line.text⟩

theorem map_bare_classify (number : Nat) (s : Stack) (lines : List Text.Line) :
    (classify number s lines).1.map bare = lines := by
  induction lines generalizing number s with
  | nil => rfl
  | cons line lines ih =>
    rw [classify, List.map_cons, ih]
    rfl

/-- The tokens of a line are told from it and from the stack that the lines in front leave. -/
theorem exists_front_of_mem_classify {number : Nat} {s : Stack} {lines : List Text.Line}
    {line : Line} (h : line ∈ (classify number s lines).1) :
    ∃ front back, lines = front ++ line.bare :: back ∧
      line.tokens =
        (tokenizeLine line.text (s.afterLines (front.map Text.Line.text))).tokens := by
  induction lines generalizing number s with
  | nil => simp [classify] at h
  | cons first lines ih =>
    rw [classify] at h
    rcases List.mem_cons.1 h with rfl | h
    · exact ⟨[], lines, rfl, rfl⟩
    · obtain ⟨front, back, hlines, htokens⟩ := ih h
      exact ⟨first :: front, back, by rw [hlines, List.cons_append], htokens⟩

end Line

/-- **The lines of a document are the lines of its text.** -/
theorem map_bare_lines (text : List Char) :
    (ofText text).lines.map Line.bare = Text.lines text :=
  Line.map_bare_classify 0 [] (Text.lines text)

theorem bare_mem_lines {text : List Char} {line : Line} (h : line ∈ (ofText text).lines) :
    line.bare ∈ Text.lines text := by
  rw [← map_bare_lines]
  exact List.mem_map_of_mem h

/-- Each line ends before the next one starts. -/
theorem pairwise_lines (text : List Char) :
    (ofText text).lines.Pairwise fun a b ↦ a.offset + Text.byteLength a.text < b.offset := by
  have h := Text.pairwise_lines text
  rwa [← map_bare_lines, List.pairwise_map] at h

section Line

variable {text : List Char} {line : Line} (hline : line ∈ (ofText text).lines)
include hline

theorem pairwise_tokens : line.tokens.Pairwise fun a b ↦ a.stop ≤ b.start := by
  obtain ⟨front, back, -, htokens⟩ := Line.exists_front_of_mem_classify hline
  rw [htokens]
  exact Token.pairwise_layout 0 _

variable {t : Token} (ht : t ∈ line.tokens)
include ht

/-- Each token has a text in its line. -/
theorem exists_text?_of_mem_tokens : ∃ inside, t.text? line.text = some inside ∧ inside ≠ [] := by
  obtain ⟨front, back, -, htokens⟩ := Line.exists_front_of_mem_classify hline
  rw [htokens] at ht
  exact (covers_tokenizeLine line.text _).exists_text? ht

/-- A token ends with its line at the latest. -/
theorem stop_le_of_mem_tokens : t.stop ≤ Text.byteLength line.text := by
  obtain ⟨inside, hinside, -⟩ := exists_text?_of_mem_tokens hline ht
  obtain ⟨before, after, htext, hstart, hstop⟩ := Text.slice?_eq_some_iff.1 hinside
  have hlen := congrArg Text.byteLength htext
  rw [Text.byteLength_append, Text.byteLength_append] at hlen
  omega

/-- **Each token is a stretch of the text.** -/
theorem isStretch_of_mem_tokens :
    Text.IsStretch text (line.offset + t.start) (line.offset + t.stop) := by
  obtain ⟨inside, hinside, hne⟩ := exists_text?_of_mem_tokens hline ht
  exact Text.isStretch_of_slice? (bare_mem_lines hline) hinside hne

end Line

end Document

end RonWorkbench
