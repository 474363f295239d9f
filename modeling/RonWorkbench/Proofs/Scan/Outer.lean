import RonWorkbench.Proofs.Token.Inside
import RonWorkbench.Proofs.Scan.Value

/-!
# Groups around a scan

A line inside further groups is scanned as it is without them: the same tokens, which have the
scopes of the groups in addition, and the same stack inside the groups
(`tokenizeLine_append_groups`). There is one way in which a scan can notice a group around it, and
that is a closer that it would otherwise have nothing to close for.

The argument is a simulation. A step looks at the innermost construct only, and where there is none
it reads just what it reads in a group; so it commutes with putting groups around the stack
(`scanStep_append`), and from step to step so does a run (`Scans.within`). What is done with the
pieces of a run afterwards, joining and laying out, compares scopes with each other or copies them,
which makes no difference either.
-/

namespace RonWorkbench

/-- The piece inside further constructs. -/
def Piece.within (outer : Stack) (p : Piece) : Piece :=
  { p with frames := p.frames ++ outer }

/-- The step inside further constructs. -/
def Step.within (outer : Stack) (t : Step) : Step :=
  ⟨t.pieces.map (Piece.within outer), t.stack ++ outer⟩

/-- The token inside further constructs, whose scopes are inserted behind the outermost one. -/
def Token.within (outer : Stack) (t : Token) : Token :=
  { t with scopes := t.scopes.take 1 ++ (outer.map Frame.scope).reverse ++ t.scopes.drop 1 }

/-- A closer where nothing is open. -/
def Piece.IsStray (p : Piece) : Prop :=
  p.frames = [] ∧ p.leaf = some .invalid

/-- Standing within other constructs changes no text. -/
@[simp]
theorem Piece.textOf_map_within (outer : Stack) (pieces : List Piece) :
    textOf (pieces.map (within outer)) = textOf pieces := by
  simp [textOf, Piece.within, Function.comp_def]

theorem Step.consumed_within (outer : Stack) (t : Step) :
    (t.within outer).consumed = t.consumed :=
  Piece.textOf_map_within outer t.pieces

/-! ### Scopes -/

namespace Stack

/-- Scopes that are equal stay equal inside further constructs, and were equal before. -/
theorem scopes_append_eq_iff {s u : Stack} (outer : Stack) :
    scopes (s ++ outer) = scopes (u ++ outer) ↔ scopes s = scopes u := by
  simp [scopes]

/-- At the end of a line outer groups stay open. -/
theorem endLine_append {s outer : Stack} (houter : ∀ f ∈ outer, f.isLiteral = false) :
    endLine (s ++ outer) = endLine s ++ outer := by
  induction s with
  | nil =>
    cases outer with
    | nil => rfl
    | cons f outer =>
      have hlocal : f.isLineLocal = false := by
        have hf := houter f List.mem_cons_self
        cases f with
        | group kind => rfl
        | _ => simp [Frame.isLiteral] at hf
      simp [endLine, hlocal]
  | cons f s ih =>
    rw [List.cons_append, endLine, endLine, List.dropWhile_cons, List.dropWhile_cons]
    split
    · exact ih
    · rfl

end Stack

/-- The outer constructs come in behind the first scope, that of the source. -/
theorem Piece.scopes_within (outer : Stack) (p : Piece) :
    (p.within outer).scopes =
      p.scopes.take 1 ++ (outer.map Frame.scope).reverse ++ p.scopes.drop 1 := by
  simp [Piece.scopes, Piece.within, Stack.scopes]

/-! ### Steps -/

section Groups

variable {groups : Stack} (hgroups : ∀ f ∈ groups, f.isLiteral = false)

namespace Lexeme

include hgroups in
/-- Around a stack groups do not change what is read. -/
theorem recognise?_append (s : Stack) (rest : List Char) :
    recognise? (s ++ groups).head? rest = recognise? s.head? rest := by
  cases s with
  | nil =>
    -- the groups come into view, and in them the text is read as at the top level
    rw [List.nil_append, recognise?_of_inValue (Stack.inValue_of_groups hgroups)]
    rfl
  | cons f below => rfl

/-- At the top level a value is taken as in a group, closers apart. -/
theorem step_groups {x : Lexeme} (hx : x.isValue) (hclose : ∀ kind, x ≠ groupClose kind)
    (outer : Stack) : x.step outer = (x.step []).within outer := by
  cases x with
  | groupClose kind => exact absurd rfl (hclose kind)
  | memberName name gap => cases gap <;> rfl
  | commentNest | commentUnnest | commentText _ | escape _ | quoteClose | quoteText _ | rawQuote _
  | rawText _ | characterClose | characterText _ => simp [isValue] at hx
  | _ => rfl

theorem closeGroup_of_head? {s : Stack} {kind : Bracket} (h : s.head? = some (.group kind)) :
    closeGroup s kind = .closeFrame s kind.mark [kind.closer] :=
  if_pos h

/-- A closer that does not fit the innermost group is invalid and closes nothing. -/
theorem closeGroup_of_head?_ne {s : Stack} {kind : Bracket} (h : s.head? ≠ some (.group kind)) :
    closeGroup s kind = .classify s .invalid [kind.closer] :=
  if_neg h

/-- Where a construct is open, what is around it is handed on. -/
theorem step_cons_append (f : Frame) (below : Stack) (x : Lexeme) (outer : Stack) :
    x.step (f :: below ++ outer) = (x.step (f :: below)).within outer := by
  -- A step looks at the innermost construct only, which is not an outer one.
  cases x with
  | groupClose kind =>
    by_cases hhead : f = .group kind
    · subst hhead
      rw [step, closeGroup_of_head? rfl, step, closeGroup_of_head? rfl]
      rfl
    · have hne {below : Stack} : (f :: below).head? ≠ some (.group kind) := by simpa using hhead
      rw [step, List.cons_append, closeGroup_of_head?_ne hne, step, closeGroup_of_head?_ne hne]
      rfl
  | memberName name gap => cases gap <;> rfl
  | commentNest => cases f <;> rfl
  | commentUnnest =>
    cases f with
    | blockComment depth =>
      simp only [step, unnestComment, List.cons_append, Step.within]
      split <;> rfl
    | _ => rfl
  | rawQuote hashes =>
    cases f with
    | rawQuoted opened byte =>
      simp only [step, rawQuoteStep, List.cons_append]
      split <;> rfl
    | _ => rfl
  | _ => rfl

end Lexeme

include hgroups

/-- **A step that meets no stray closer does the same inside further groups.** -/
theorem scanStep_append {s : Stack} {c : Char} {rest : List Char}
    (hstray : ∀ p ∈ (scanStep s c rest).pieces, ¬p.IsStray) :
    scanStep (s ++ groups) c rest = (scanStep s c rest).within groups := by
  unfold scanStep at hstray ⊢
  rw [Lexeme.recognise?_append hgroups]
  cases h : Lexeme.recognise? s.head? (c :: rest) with
  | none => rfl
  | some x =>
    rw [h] at hstray
    cases s with
    | cons f below => exact Lexeme.step_cons_append f below x groups
    | nil =>
      refine Lexeme.step_groups (Lexeme.reads_of_recognise? h).belongs ?_ groups
      -- the one lexeme that could tell a group from the top level is a closer
      rintro kind rfl
      exact hstray ⟨[kind.closer], [], some .invalid⟩ (by simp [Lexeme.step, Lexeme.closeGroup,
        Step.classify]) ⟨rfl, rfl⟩

/-- **So does a run.** -/
theorem Scans.within {s u : Stack} {line rest : List Char} {pieces : List Piece}
    (h : Scans s line pieces u rest) (hstray : ∀ p ∈ pieces, ¬p.IsStray) :
    Scans (s ++ groups) line (pieces.map (Piece.within groups)) (u ++ groups) rest := by
  induction h with
  | refl => exact .refl _ _
  | @step s u c line rest pieces _ ih =>
    obtain ⟨hfirst, hmore⟩ := List.forall_mem_append.1 hstray
    have hstep := scanStep_append hgroups hfirst
    have hrun : Scans (s ++ groups) (c :: line) _ (u ++ groups) rest := .step (by
      rw [hstep, Step.consumed_within]
      exact ih hmore)
    rwa [hstep, Step.within, ← List.map_append] at hrun

/-! ### Tokens -/

omit hgroups

/-- Joining compares scopes, which further constructs do not change. -/
theorem Piece.join_map_within (outer : Stack) (pieces : List Piece) :
    join (pieces.map (within outer)) = (join pieces).map (within outer) := by
  induction pieces with
  | nil => rfl
  | cons p more ih =>
    cases hjoin : join more with
    | nil =>
      rw [hjoin] at ih
      rw [List.map_cons, join, join, ih, hjoin]
      rfl
    | cons q rest =>
      rw [hjoin, List.map_cons] at ih
      rw [List.map_cons, join_cons_eq ih, join_cons_eq hjoin]
      simp only [within, isPlain, Bool.and_eq_true, beq_iff_eq, Stack.scopes_append_eq_iff]
      split <;> rfl

/-- The tokens of a layout stand within as its pieces do. -/
theorem Token.layout_map_within (outer : Stack) (offset : Nat) (pieces : List Piece) :
    layout offset (pieces.map (Piece.within outer)) =
      (layout offset pieces).map (within outer) := by
  induction pieces generalizing offset with
  | nil => rfl
  | cons p pieces ih =>
    rw [List.map_cons, layout, ih, layout, List.map_cons, Piece.scopes_within]
    rfl

/-- If no token is a closer at the top level, no piece is. -/
theorem not_isStray_of_mem_scan {line : List Char} {s : Stack}
    (h : ∀ t ∈ (tokenizeLine line s).tokens, t.scopes ≠ [.source, .invalid]) :
    ∀ p ∈ (scan s line).1, ¬p.IsStray := by
  rintro p hp ⟨hframes, hleaf⟩
  obtain ⟨done, after, hpieces⟩ := List.append_of_mem hp
  obtain ⟨before, q, rest, inner, outer, hjoin, -, -, hscopes⟩ :=
    Piece.exists_join_eq_append done p after
  have hq := Token.mem_layout 0 before q rest
  rw [← hjoin, ← hpieces] at hq
  exact h _ hq (hscopes.trans (by simp [Piece.scopes, hframes, hleaf]))

include hgroups

/--
**Outer groups are transparent.** Unless a closer is met where nothing is open, the tokens of a line
inside further groups are those that it has without them, each with the scopes of the groups behind
its outermost scope, which is the root; and the groups stay around the stack that the line leaves.
-/
theorem tokenizeLine_append_groups {line : List Char} {s : Stack}
    (hclosed : ∀ t ∈ (tokenizeLine line s).tokens, t.scopes ≠ [.source, .invalid]) :
    tokenizeLine line (s ++ groups) =
      ⟨(tokenizeLine line s).tokens.map (Token.within groups),
        (tokenizeLine line s).stack ++ groups⟩ ∧
    ∀ t ∈ (tokenizeLine line s).tokens, t.scopes.head? = some .source := by
  constructor
  · have hrun := (scans_scan s line).within hgroups (not_isStray_of_mem_scan hclosed)
    rw [tokenizeLine, hrun.scan_eq_of_nil]
    dsimp only
    rw [Piece.join_map_within, Token.layout_map_within, Stack.endLine_append hgroups]
    rfl
  · intro t ht
    obtain ⟨before, p, after, -, -, -, hscopes⟩ := Token.exists_of_mem_layout ht
    rw [hscopes]
    rfl

end Groups

/-- The inner group is closed, and what comes then stands in the outer one alone. -/
theorem tokenizeLine_append_groups_emptied :
    (∀ t ∈ (tokenizeLine [')', ' ', '\'', 'c'] [.group .parens]).tokens,
      t.scopes ≠ [.source, .invalid]) ∧
    tokenizeLine [')', ' ', '\'', 'c'] [.group .parens, .group .braces] =
      ⟨[⟨0, 1, [.source, .map, .struct, .parens]⟩, ⟨1, 2, [.source, .map]⟩,
        ⟨2, 3, [.source, .map, .character, .characterMark]⟩,
        ⟨3, 4, [.source, .map, .character]⟩], [.group .braces]⟩ := by
  have hgroups : ∀ f ∈ [Frame.group .braces], f.isLiteral = false := by decide
  have hclosed : ∀ t ∈ (tokenizeLine [')', ' ', '\'', 'c'] [.group .parens]).tokens,
      t.scopes ≠ [.source, .invalid] := by decide +kernel
  have hsame := (tokenizeLine_append_groups hgroups hclosed).1
  exact ⟨hclosed, hsame.trans (by decide +kernel)⟩

end RonWorkbench
