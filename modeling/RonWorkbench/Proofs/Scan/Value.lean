import RonWorkbench.Proofs.Lexeme.Bracket
import RonWorkbench.Proofs.Stack.Reachable

/-!
# What one step does in value position

`Step.Acts` says of a classified piece only that it has a leaf. In value position more is known, and
`Step.ActsInValue` says it once: which leaf scopes there are, that a bracket is either a lexeme of
its own or hidden in a comment or an attribute, and that a closer is invalid just where the
innermost group is not of its kind.

With it the leaf scopes of all pieces can be told from the construct in which they stand
(`Frame.admits`, `admitted_scanStep`): the delimiters of the construct itself, escapes where the
construct knows them, and the classes of values in a group and at the top level. So the delimiter
of a literal is nowhere but inside that literal, although its scope does not say where it stands.
-/

namespace RonWorkbench

/-- A leaf scope of values and their separators, or of a closer that closes nothing. -/
def Scope.isValue : Scope → Bool
  | lineComment | innerAttribute | hexNumber | binaryNumber | octalNumber | number | constant
  | typeName | variantName | memberName | identifier | colon | comma | invalid => true
  | _ => false

/-- All that a step can do in value position. -/
inductive Step.ActsInValue (s : Stack) : Step → Prop
  /-- A value, a separator, a comment or an attribute is classified. -/
  | classify {leaf : Scope} {text : List Char} (hleaf : leaf.isValue) (hne : leaf ≠ .invalid)
      (hfree : leaf = .lineComment ∨ leaf = .innerAttribute ∨ Bracket.Free text) :
      ActsInValue s (.classify s leaf text)
  /-- A name with its gap and its colon. -/
  | member {name gap : List Char} (hname : Bracket.Free name) (hgap : Bracket.Free gap) :
      ActsInValue s ⟨Lexeme.memberPieces s name gap, s⟩
  /-- A character is passed over. -/
  | plain {c : Char} (hfree : Bracket.isMark c = false) : ActsInValue s (.plain s [c])
  /-- A construct is opened. -/
  | opens {f : Frame} (hf : f.IsFresh) : ActsInValue s (.openFrame s f f.mark f.opening)
  /-- The innermost group is closed. -/
  | closes {kind : Bracket} (hs : s.head? = some (.group kind)) :
      ActsInValue s (.closeFrame s kind.mark [kind.closer])
  /-- A closer is met that does not close the innermost group. -/
  | strays {kind : Bracket} (hs : s.head? ≠ some (.group kind)) :
      ActsInValue s (.classify s .invalid [kind.closer])

namespace Lexeme

theorem isValue_family (family : NumberFamily) : family.scope.isValue := by
  cases family <;> rfl

/-- **What is recognised where no literal is open** acts as it may there. -/
theorem actsInValue_step {s : Stack} {rest : List Char} {x : Lexeme}
    (h : inValue? rest = some x) : Step.ActsInValue s (x.step s) := by
  have hvalue : x.isValue := (reads_of_inValue? h).belongs
  have hfree := free_of_inValue? h
  have hopens {f : Frame} (hf : f.IsFresh) : Step.ActsInValue s ((ofOpening f).step s) := by
    rw [step_ofOpening s hf]
    exact .opens hf
  -- A lexeme that takes brackets with it is a comment or an attribute; all others are free of them.
  cases x with
  | lineComment body => exact .classify rfl (by decide) (.inl rfl)
  | innerAttribute body => exact .classify rfl (by decide) (.inr (.inl rfl))
  | commentOpen => exact hopens (f := .blockComment 1) (by simp [Frame.IsFresh])
  | rawOpen byte hashes => exact hopens (f := .rawQuoted hashes byte) (by simp [Frame.IsFresh])
  | quoteOpen byte => exact hopens (f := .quoted byte) (by simp [Frame.IsFresh])
  | characterOpen byte => exact hopens (f := .character byte) (by simp [Frame.IsFresh])
  | groupOpen kind => exact hopens (f := .group kind) (by simp [Frame.IsFresh])
  | groupClose kind =>
    show Step.ActsInValue s (closeGroup s kind)
    unfold closeGroup
    split
    · next hhead => exact .closes hhead
    · next hhead => exact .strays hhead
  | memberName name gap =>
    have hparts : Bracket.Free name ∧ Bracket.Free gap ∧ Bracket.Free [':'] := by
      simpa [consumed, text, parts, Bracket.free_append] using hfree rfl
    exact .member hparts.1 hparts.2.1
  | number family digits =>
    refine .classify (isValue_family family) ?_ (.inr (.inr (hfree rfl)))
    cases family <;> decide
  | commentNest | commentUnnest | commentText _ | escape _ | quoteClose | quoteText _ | rawQuote _
  | rawText _ | characterClose | characterText _ => simp [isValue] at hvalue
  | _ => exact .classify rfl (by decide) (.inr (.inr (hfree rfl)))

end Lexeme

/-- **In value position nothing but the actions of `Step.ActsInValue` happens.** -/
theorem actsInValue_scanStep {s : Stack} (hs : s.InValue) (c : Char) (rest : List Char) :
    Step.ActsInValue s (scanStep s c rest) := by
  unfold scanStep
  split
  · next x h =>
    rw [Lexeme.recognise?_of_inValue hs] at h
    exact Lexeme.actsInValue_step h
  · next h =>
    rw [Lexeme.recognise?_of_inValue hs] at h
    exact .plain (Lexeme.isMark_of_inValue?_eq_none h)

/-! ### The leaf scopes of a construct -/

/-- The leaf scopes that pieces have directly inside the construct. -/
def Frame.admits (f : Frame) (leaf : Scope) : Bool :=
  leaf == f.mark || (f.hasEscapes && leaf == .escape) || (!f.isLiteral && leaf.isValue)

/-- The leaf scopes that pieces have where the given constructs are open. -/
def Stack.admits (s : Stack) (leaf : Scope) : Bool :=
  match s with
  | [] => leaf.isValue
  | f :: _ => f.admits leaf

/-- The leaf of the piece, if it has one, is one that the innermost construct admits. -/
def Piece.IsAdmitted (p : Piece) : Prop :=
  ∀ leaf ∈ p.leaf, p.frames.admits leaf

theorem Stack.admits_mark (f : Frame) (below : Stack) : Stack.admits (f :: below) f.mark := by
  simp [admits, Frame.admits]

theorem Stack.admits_escape {f : Frame} (hf : f.hasEscapes) (below : Stack) :
    Stack.admits (f :: below) .escape := by
  simp [admits, Frame.admits, hf]

/-- Values can stand where no literal is innermost. -/
theorem Stack.InValue.admits {s : Stack} (hs : s.InValue) {leaf : Scope} (hleaf : leaf.isValue) :
    s.admits leaf := by
  cases s with
  | nil => exact hleaf
  | cons f below => simp [Stack.admits, Frame.admits, hs f rfl, hleaf]

/-- Where values can stand, a leaf is one of values or of brackets. -/
theorem Stack.InValue.isValue_or_mark {s : Stack} (hs : s.InValue) {leaf : Scope}
    (h : s.admits leaf) : leaf.isValue ∨ ∃ kind : Bracket, leaf = kind.mark := by
  cases s with
  | nil => exact .inl h
  | cons f below =>
    have hf : f.isLiteral = false := hs f rfl
    cases f with
    | group kind =>
      have hleaf : leaf = kind.mark ∨ leaf.isValue := by
        simpa [Stack.admits, Frame.admits, Frame.mark, Frame.hasEscapes, Frame.isLiteral] using h
      rcases hleaf with hleaf | hleaf
      · exact .inr ⟨kind, hleaf⟩
      · exact .inl hleaf
    | _ => simp [Frame.isLiteral] at hf

namespace Piece

/-- A piece is admitted with a leaf that its construct admits. -/
theorem isAdmitted_of_leaf {text : List Char} {s : Stack} {leaf : Scope} (h : s.admits leaf) :
    IsAdmitted ⟨text, s, some leaf⟩ := by
  simpa [IsAdmitted] using h

theorem isAdmitted_of_plain (text : List Char) (s : Stack) : IsAdmitted ⟨text, s, none⟩ := by
  simp [IsAdmitted]

end Piece

/-- The name, the blanks and the colon of a member are admitted. -/
theorem admitted_memberPieces {s : Stack} (hs : s.InValue) (name gap : List Char) :
    ∀ p ∈ Lexeme.memberPieces s name gap, p.IsAdmitted := by
  have hname : Piece.IsAdmitted ⟨name, s, some .memberName⟩ :=
    Piece.isAdmitted_of_leaf (hs.admits rfl)
  have hcolon : Piece.IsAdmitted ⟨[':'], s, some .colon⟩ :=
    Piece.isAdmitted_of_leaf (hs.admits rfl)
  refine List.forall_mem_cons.2 ⟨hname, List.forall_mem_append.2 ⟨?_, ?_⟩⟩
  · split
    · simp
    · exact List.forall_mem_singleton.2 (Piece.isAdmitted_of_plain gap s)
  · exact List.forall_mem_singleton.2 hcolon

/-- **The leaf scopes of a step are those of the constructs in which its pieces stand.** -/
theorem admitted_scanStep (s : Stack) (c : Char) (rest : List Char) :
    ∀ p ∈ (scanStep s c rest).pieces, p.IsAdmitted := by
  by_cases hs : s.InValue
  · have hacts := actsInValue_scanStep hs c rest
    generalize scanStep s c rest = t at hacts
    cases hacts with
    | classify hleaf =>
      exact List.forall_mem_singleton.2 (Piece.isAdmitted_of_leaf (hs.admits hleaf))
    | member => exact admitted_memberPieces hs _ _
    | plain => exact List.forall_mem_singleton.2 (Piece.isAdmitted_of_plain _ s)
    | @opens f =>
      exact List.forall_mem_singleton.2 (Piece.isAdmitted_of_leaf (Stack.admits_mark f s))
    | @closes kind hhead =>
      obtain ⟨below, rfl⟩ := List.head?_eq_some_iff.1 hhead
      exact List.forall_mem_singleton.2
        (Piece.isAdmitted_of_leaf (Stack.admits_mark (.group kind) below))
    | strays => exact List.forall_mem_singleton.2 (Piece.isAdmitted_of_leaf (hs.admits rfl))
  · -- inside a comment or a literal, where nothing of the above is read
    have hacts := acts_scanStep s c rest
    generalize scanStep s c rest = t at hacts
    cases hacts with
    | classify hs' | member hs' | opens hs' => exact absurd hs' hs
    | @escape f below _ hf =>
      exact List.forall_mem_singleton.2 (Piece.isAdmitted_of_leaf (Stack.admits_escape hf below))
    | plain => exact List.forall_mem_singleton.2 (Piece.isAdmitted_of_plain _ s)
    | @closes f below =>
      exact List.forall_mem_singleton.2 (Piece.isAdmitted_of_leaf (Stack.admits_mark f below))
    | @nests depth below =>
      exact List.forall_mem_singleton.2
        (Piece.isAdmitted_of_leaf (Stack.admits_mark (.blockComment (depth + 1)) below))
    | @unnests depth below =>
      exact List.forall_mem_singleton.2
        (Piece.isAdmitted_of_leaf (Stack.admits_mark (.blockComment depth) below))

/-- **Each piece of a scan is admitted** by the construct it stands in. -/
theorem admitted_of_mem_scan {s : Stack} {line : List Char} {p : Piece}
    (hp : p ∈ (scan s line).1) : p.IsAdmitted :=
  forall_mem_scan admitted_scanStep hp

end RonWorkbench
