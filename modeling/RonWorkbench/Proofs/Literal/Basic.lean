import RonWorkbench.Proofs.Text.FirstCut
import RonWorkbench.Proofs.Token.Inside

/-!
# Literals

A literal has a rule where it is closed, which is a property of cuts of its text, and a rule how its
text is split into atoms. The scan goes from step to step and knows neither rule; what it does is
said by `Literal.Reads`: it leaves the literal at the first cut that closes it, or reads text to the
end of the line, and what it has read is split by the rule.

A literal is shown to be read in this way step by step, from its end (`Literal.Reads.close`,
`Literal.Reads.step`). For a step it is to be shown that no cut inside the text that it takes
closes the literal. `Literal.Reads.tokenizeLine_eq` turns the outcome into tokens.
-/

namespace RonWorkbench.Literal

/-- How the scan reads what is left of a line inside a literal. -/
inductive Reads (f : Frame) (below : Stack) (Splits : List Char → List Atom → List Char → Prop)
    (Closes : List Char → List Char → Prop) : List Char → Prop
  /-- Text up to the first cut that closes the literal, and the closer. -/
  | closed {body tail : List Char} {atoms : List Atom}
      (hfirst : Text.IsFirstCut Closes body (f.closing ++ tail))
      (hatoms : Splits (body ++ (f.closing ++ tail)) atoms (f.closing ++ tail))
      (h : ScansInside (f :: below) (body ++ (f.closing ++ tail))
        (atoms ++ [.mark f.closing f.mark]) below tail) :
      Reads f below Splits Closes (body ++ (f.closing ++ tail))
  /-- Where no cut closes the literal, text only. -/
  | carried {rest : List Char} {atoms : List Atom} (hnone : Text.HasNoCut Closes rest)
      (hatoms : Splits rest atoms [])
      (h : ScansInside (f :: below) rest atoms (f :: below) []) :
      Reads f below Splits Closes rest

theorem notMem_takeWhile {test : Char → Bool} {c : Char} (hc : test c = false)
    (rest : List Char) : c ∉ rest.takeWhile test := by
  intro hmem
  simpa [hc] using List.mem_takeWhile_imp hmem

namespace Reads

variable {f : Frame} {below : Stack} {Splits : List Char → List Atom → List Char → Prop}
  {Closes : List Char → List Char → Prop} {c : Char} {text : List Char}

/-- Nothing is left. -/
theorem nil (hnone : ¬Closes [] []) (hstop : Splits [] [] []) :
    Reads f below Splits Closes [] :=
  .carried (Text.hasNoCut_nil.2 hnone) hstop (.nil _)

/-- The closer stands at the scan position. -/
theorem close {tail : List Char}
    (hstep : scanStep (f :: below) c text =
      ⟨[⟨f.closing, f :: below, some f.mark⟩], below⟩)
    (htext : c :: text = f.closing ++ tail) (hcloses : Closes [] (c :: text))
    (hstop : Splits (c :: text) [] (c :: text)) : Reads f below Splits Closes (c :: text) := by
  have hscan : ScansInside (f :: below) (c :: text) [.mark f.closing f.mark] below tail :=
    .last hstep htext rfl rfl
  rw [htext] at hcloses hstop hscan ⊢
  have hread : Reads f below Splits Closes ([] ++ (f.closing ++ tail)) :=
    .closed (Text.isFirstCut_nil.2 hcloses) hstop hscan
  exact hread

/-- A step inside the literal: nowhere in what it takes is the literal closed. -/
theorem step {p : Piece} {more : List Char}
    (hstep : scanStep (f :: below) c text = ⟨[p], f :: below⟩)
    (htext : c :: text = p.text ++ more) (hframes : p.frames = f :: below)
    (hno : ∀ a b, p.text = a ++ b → b ≠ [] → ¬Closes a (b ++ more))
    (hsplits : ∀ {atoms rest}, Splits more atoms rest →
      Splits (c :: text) (p.atoms ++ atoms) rest)
    (h : Reads f below Splits (fun before ↦ Closes (p.text ++ before)) more) :
    Reads f below Splits Closes (c :: text) := by
  have hscopes : p.frames.scopes = Stack.scopes (f :: below) := by rw [hframes]
  cases h with
  | @closed body tail atoms hfirst hatoms h =>
    have hscan := h.cons hstep htext hscopes rfl
    have hsplit : c :: text = (p.text ++ body) ++ (f.closing ++ tail) := by
      rw [htext, List.append_assoc]
    have hread := hsplits hatoms
    rw [hsplit] at hscan hread ⊢
    exact .closed (hfirst.append hno) hread (by rwa [List.append_assoc p.atoms])
  | carried hnone hatoms h =>
    have hscan := h.cons hstep htext hscopes rfl
    have hread := hsplits hatoms
    rw [htext] at hscan hread ⊢
    exact .carried (hnone.append hno) hread hscan

/--
**The tokens of a line from a scan position inside a literal on.** A split of the text in front of
the first cut that closes the literal, or of all that is left, is the only one, and it tells the
tokens.
-/
theorem tokenizeLine_eq {s : Stack} {line rest : List Char} {front : List Piece}
    (h : Reads f below Splits Closes rest) (hrun : Scans s line front (f :: below) rest)
    (hfront : Piece.EndsClassified front)
    (hunique : ∀ {text a b rest}, Splits text a rest → Splits text b rest → a = b) :
    (∀ body behind, rest = body ++ behind → Text.IsFirstCut Closes body behind →
      (∃ atoms, Splits rest atoms behind) ∧
      ∀ atoms, Splits rest atoms behind →
        tokenizeLine line s = (tokenizeLine (behind.drop f.closing.length) below).behind
          (Piece.join front ++
            (Atom.pieces (f :: below) atoms ++ [⟨f.closing, f :: below, some f.mark⟩]))) ∧
    (Text.HasNoCut Closes rest →
      (∃ atoms, Splits rest atoms []) ∧
      ∀ atoms, Splits rest atoms [] →
        tokenizeLine line s = LineTokens.behind ⟨[], Stack.endLine (f :: below)⟩
          (Piece.join front ++ Atom.pieces (f :: below) atoms)) := by
  cases h with
  | @closed body tail atoms hfirst hatoms h =>
    have htokens := h.tokenizeLine_eq hrun hfront
    rw [Atom.pieces_append_mark] at htokens
    refine ⟨fun other behind hrest hother ↦ ?_, fun hnone ↦ absurd hfirst hnone.not_isFirstCut⟩
    obtain ⟨rfl, rfl⟩ := hfirst.unique hother hrest
    refine ⟨⟨atoms, hatoms⟩, fun others hothers ↦ ?_⟩
    rw [← hunique hatoms hothers, List.drop_left, htokens]
  | @carried rest atoms hnone hatoms h =>
    have htokens := h.tokenizeLine_eq hrun hfront
    rw [tokenizeLine_nil] at htokens
    refine ⟨?_, fun _ ↦ ⟨⟨atoms, hatoms⟩, fun others hothers ↦ ?_⟩⟩
    · rintro body behind rfl hfirst
      exact absurd hfirst hnone.not_isFirstCut
    · rw [← hunique hatoms hothers, htokens]

end Reads

end RonWorkbench.Literal
