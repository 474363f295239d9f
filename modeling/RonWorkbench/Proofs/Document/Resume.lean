import RonWorkbench.Proofs.Stack.Shape
import RonWorkbench.Proofs.Text.Lines

/-!
# Taking a document up again

Nothing passes from line to line but the stack, and a newline is a seam of the lines
(`Text.lines_append_newline`). So a document can be taken up again behind any of its newlines: what
follows is classified from the stack kept there, and differs from the document of its own only in
where its lines stand (`Document.resume_append_newline`).

The first half rests on the lines being classified in order (`Line.classify_append`), the second on
their numbers and offsets not being looked at (`Line.classify_shift`).
-/

namespace RonWorkbench.Document

/-- The document of a text that is taken up from a stack that was kept. -/
def resume (s : Stack) (text : List Char) : Document :=
  let result := Line.classify 0 s (Text.lines text)
  ⟨result.1, result.2⟩

namespace Line

/-- The line of a document with so many more lines and bytes in front. -/
def shift (count bytes : Nat) (line : Line) : Line :=
  { line with number := line.number + count, offset := line.offset + bytes }

@[simp]
theorem length_classify (number : Nat) (s : Stack) (lines : List Text.Line) :
    (classify number s lines).1.length = lines.length := by
  induction lines generalizing number s with
  | nil => rfl
  | cons line lines ih => rw [classify, List.length_cons, ih, List.length_cons]

/-- **The stack is all that passes from line to line.** -/
theorem classify_append (number : Nat) (s : Stack) (a b : List Text.Line) :
    classify number s (a ++ b) =
      ((classify number s a).1 ++
          (classify (number + a.length) (s.afterLines (a.map Text.Line.text)) b).1,
        (classify (number + a.length) (s.afterLines (a.map Text.Line.text)) b).2) := by
  induction a generalizing number s with
  | nil => rfl
  | cons line a ih =>
    have hnumber : number + (line :: a).length = number + 1 + a.length := by
      rw [List.length_cons]
      omega
    rw [hnumber, List.map_cons, Stack.afterLines_cons, List.cons_append, classify, classify, ih,
      List.cons_append]

/-- Where a line stands is handed on and not looked at. -/
theorem classify_shift (number count bytes : Nat) (s : Stack) (lines : List Text.Line) :
    classify (number + count) s (lines.map (Text.Line.shift bytes)) =
      ((classify number s lines).1.map (shift count bytes), (classify number s lines).2) := by
  induction lines generalizing number s with
  | nil => rfl
  | cons line lines ih =>
    have hnext : number + count + 1 = number + 1 + count := by omega
    rw [List.map_cons, classify, Text.Line.text_shift, hnext, ih, classify]
    rfl

/-- The first lines of a document are the document of its first lines. -/
theorem take_classify (number i : Nat) (s : Stack) (lines : List Text.Line) :
    (classify number s lines).1.take i = (classify number s (lines.take i)).1 := by
  induction lines generalizing number i s with
  | nil => rw [List.take_nil, classify, List.take_nil]
  | cons line lines ih =>
    cases i with
    | zero => rfl
    | succ i => rw [classify, List.take_succ_cons, ih, List.take_succ_cons, classify]

/-- The other lines of a document are classified from the stack that the first ones left. -/
theorem classify_drop (number i : Nat) (s : Stack) (lines : List Text.Line) :
    classify (number + i) (s.afterLines ((lines.take i).map Text.Line.text)) (lines.drop i) =
      ((classify number s lines).1.drop i, (classify number s lines).2) := by
  induction lines generalizing number i s with
  | nil => rw [List.take_nil, List.drop_nil, classify, classify, List.drop_nil]; rfl
  | cons line lines ih =>
    cases i with
    | zero => rfl
    | succ i =>
      have hnumber : number + (i + 1) = number + 1 + i := by omega
      rw [hnumber, List.take_succ_cons, List.map_cons, Stack.afterLines_cons, List.drop_succ_cons,
        ih, classify, List.drop_succ_cons]

end Line

/-- A document that is taken up again goes on behind a newline where its first part stopped. -/
theorem resume_append_newline (s : Stack) (a b : List Char) :
    resume s (a ++ '\n' :: b) =
      ⟨(resume s a).lines ++ (resume (resume s a).stack b).lines.map
          (Line.shift (resume s a).lines.length (Text.byteLength a + 1)),
        (resume (resume s a).stack b).stack⟩ := by
  have hkept : s.afterLines ((Text.lines a).map Text.Line.text) = (resume s a).stack :=
    (Line.snd_classify 0 s (Text.lines a)).symm
  have hcount : (resume s a).lines.length = (Text.lines a).length :=
    Line.length_classify 0 s (Text.lines a)
  -- the seam of the text is a seam of its lines, and the second part is the same but for its place
  have hboth := Line.classify_append 0 s (Text.lines a)
    ((Text.lines b).map (Text.Line.shift (Text.byteLength a + 1)))
  rw [← Text.lines_append_newline, Line.classify_shift, hkept, ← hcount] at hboth
  rw [resume, hboth]
  rfl

/--
**A document can be taken up again at every line break.** Behind a newline the lines are those of
the text that follows, classified from the stack that was kept and moved past what stands in front.

So the first lines of a document are settled by the first lines of its text, whatever follows; and
from the stack kept behind any number of its lines the others are classified as they are from the
start, down to the stack at the end.
-/
theorem ofText_resumes :
    (∀ a b : List Char,
      ofText (a ++ '\n' :: b) =
        ⟨(ofText a).lines ++ (resume (ofText a).stack b).lines.map
            (Line.shift (ofText a).lines.length (Text.byteLength a + 1)),
          (resume (ofText a).stack b).stack⟩) ∧
    (∀ (text : List Char) (i : Nat),
      (ofText text).lines.take i = (Line.classify 0 [] ((Text.lines text).take i)).1) ∧
    (∀ (text : List Char) (i : Nat),
      let kept := (Line.classify 0 [] ((Text.lines text).take i)).2
      Line.classify i kept ((Text.lines text).drop i) =
        ((ofText text).lines.drop i, (ofText text).stack)) := by
  refine ⟨resume_append_newline [], fun text i ↦ Line.take_classify 0 i [] _, fun text i ↦ ?_⟩
  have hrest := Line.classify_drop 0 i [] (Text.lines text)
  rw [Nat.zero_add, ← Line.snd_classify 0] at hrest
  exact hrest

end RonWorkbench.Document
