import RonWorkbench.Proofs.Document.Tokens
import RonWorkbench.Proofs.Scan.Value

/-!
# The innermost construct owns the scan

A token of a document shows by its scopes alone which construct has read it
(`Document.readByInnermost_of_mem_tokens`): around it there are groups, and inside them one literal
or comment at most. With a literal or comment the token has one of the few leaves that are known
there (`Scope.leavesInside`); all other leaves stand in groups, and a bracket in its own group.

Two facts about the scan come together here, that only the innermost construct can be a literal
(`Stack.Nested`) and that the innermost construct decides which leaves there are (`Frame.admits`).
What is added is that both can be told from scopes, which do not name the construct: the scope of a
literal on a nested stack is the scope of its innermost construct (`Stack.Nested.exists_of_mem`).
-/

namespace RonWorkbench

namespace Scope

/-- The scope of an open literal or comment. -/
def isLiteral : Scope → Bool
  | blockComment | quoted | rawQuoted | character => true
  | _ => false

/-- The leaves that a token can have with the scope of an open literal or comment. -/
def leavesInside : Scope → List Scope
  | blockComment => [commentMark]
  | quoted => [escape, stringMark]
  | rawQuoted => [stringMark]
  | character => [escape, characterMark]
  | _ => []

end Scope

/-- By the scopes of a token the innermost construct is the one that has read it. -/
structure Token.ReadByInnermost (t : Token) : Prop where
  /-- Inside the root there are groups, one literal or comment at most, and one leaf at most. -/
  scopes : ∃ (kinds : List Bracket) (literal : Option Scope),
    t.scopes = .source :: (kinds.map Bracket.inside ++ literal.toList ++ t.leaf?.toList) ∧
      ∀ x ∈ literal, x.isLiteral
  /-- With the scope of a literal or comment there is no leaf, or one that is known there. -/
  leaf_mem : ∀ x ∈ t.scopes, x.isLiteral → ∀ leaf ∈ t.leaf?, leaf ∈ x.leavesInside
  /-- Values, separators, brackets and closers that close nothing stand in groups only. -/
  around_of_value : ∀ leaf ∈ t.leaf?, (leaf.isValue ∨ ∃ kind : Bracket, leaf = kind.mark) →
    ∃ kinds : List Bracket, t.around = kinds.map Bracket.inside
  /-- A bracket is one of the innermost group. -/
  innermost_of_mark : ∀ kind : Bracket, t.leaf? = some kind.mark →
    t.around.getLast? = some kind.inside

/-! ### Scopes of constructs -/

namespace Frame

variable {f : Frame}

theorem isLiteral_scope (f : Frame) : f.scope.isLiteral = f.isLiteral := by
  cases f with
  | group kind => cases kind <;> rfl
  | _ => rfl

theorem exists_eq_group (hf : f.isLiteral = false) : ∃ kind : Bracket, f = .group kind := by
  cases f with
  | group kind => exact ⟨kind, rfl⟩
  | _ => simp [isLiteral] at hf

/-- What a literal or comment admits is told by its scope. -/
theorem mem_leavesInside_of_admits (hf : f.isLiteral) {leaf : Scope} (h : f.admits leaf) :
    leaf ∈ f.scope.leavesInside := by
  have hleaf : leaf = f.mark ∨ f.hasEscapes ∧ leaf = .escape := by simpa [admits, hf] using h
  cases f with
  | group kind => simp [isLiteral] at hf
  | _ => simpa [scope, Scope.leavesInside, mark, hasEscapes, or_comm] using hleaf

/-- A bracket is admitted by a group of its kind alone. -/
theorem eq_group_of_admits_mark {kind : Bracket} (h : f.admits kind.mark) : f = .group kind := by
  cases f with
  | group other => revert h; cases kind <;> cases other <;> decide
  | _ => revert h; cases kind <;> simp [admits, mark, hasEscapes, isLiteral, Bracket.mark]

end Frame

/-- Inside literals and comments delimiters and escapes are known, but no values and no brackets. -/
theorem Scope.leaf_notMem_leavesInside {x leaf : Scope}
    (h : leaf.isValue ∨ ∃ kind : Bracket, leaf = kind.mark) : leaf ∉ x.leavesInside := by
  have hknown : ∀ y ∈ x.leavesInside, y ∈ [commentMark, escape, stringMark, characterMark] := by
    cases x <;> decide
  intro hmem
  have hleaf := hknown leaf hmem
  rcases h with h | ⟨kind, rfl⟩
  · revert h hleaf
    cases leaf <;> decide
  · revert hleaf
    cases kind <;> decide

namespace Stack

variable {s : Stack}

/-- The scopes of groups are those of their kinds, outermost first. -/
theorem exists_kinds (h : ∀ f ∈ s, f.isLiteral = false) :
    ∃ kinds : List Bracket, s.around = kinds.map Bracket.inside := by
  induction s with
  | nil => exact ⟨[], rfl⟩
  | cons f below ih =>
    obtain ⟨hf, hbelow⟩ := List.forall_mem_cons.1 h
    obtain ⟨kind, rfl⟩ := Frame.exists_eq_group hf
    obtain ⟨kinds, hkinds⟩ := ih hbelow
    refine ⟨kinds ++ [kind], ?_⟩
    rw [around_cons, hkinds, List.map_append]
    rfl

/-- Around a position there are groups, and inside them one literal or comment at most. -/
theorem Nested.exists_around (h : s.Nested) : ∃ (kinds : List Bracket) (literal : Option Scope),
    s.around = kinds.map Bracket.inside ++ literal.toList ∧ ∀ x ∈ literal, x.isLiteral := by
  by_cases hs : s.InValue
  · obtain ⟨kinds, hkinds⟩ := exists_kinds (h.isLiteral_of_inValue hs)
    exact ⟨kinds, none, by simp [hkinds], by simp⟩
  · obtain ⟨f, hf, hliteral⟩ : ∃ f ∈ s.head?, f.isLiteral := by simpa [InValue] using hs
    obtain ⟨below, rfl⟩ := List.head?_eq_some_iff.1 hf
    obtain ⟨kinds, hkinds⟩ := exists_kinds (s := below) h
    refine ⟨kinds, some f.scope, ?_, ?_⟩
    · rw [around_cons, hkinds]
      rfl
    · intro x hx
      obtain rfl : f.scope = x := by simpa using hx
      rwa [Frame.isLiteral_scope]

/-- The scope of a literal or comment is that of the innermost construct. -/
theorem Nested.exists_of_mem (h : s.Nested) {x : Scope} (hx : x ∈ s.scopes)
    (hliteral : x.isLiteral) : ∃ f below, s = f :: below ∧ f.isLiteral ∧ x = f.scope := by
  have hframes : ∃ f ∈ s, f.scope = x := by
    rcases List.mem_cons.1 hx with rfl | hx
    · simp [Scope.isLiteral] at hliteral
    · simpa using hx
  obtain ⟨f, hf, rfl⟩ := hframes
  rw [Frame.isLiteral_scope] at hliteral
  cases s with
  | nil => simp at hf
  | cons g below =>
    rcases List.mem_cons.1 hf with rfl | hf
    · exact ⟨f, below, rfl, hliteral, rfl⟩
    · have hgroup := h f hf
      rw [hliteral] at hgroup
      simp at hgroup

end Stack

/-! ### Tokens -/

namespace Piece

variable {p : Piece}

/-- With the scope of a literal or comment a piece has a leaf that is known there, if it has one. -/
theorem leaf_mem_leavesInside (hnested : p.frames.Nested) (hadmitted : p.IsAdmitted)
    (hleaf : ∀ leaf ∈ p.leaf, leaf.isLeaf) {x : Scope} (hx : x ∈ p.scopes)
    (hliteral : x.isLiteral) : ∀ leaf ∈ p.leaf, leaf ∈ x.leavesInside := by
  have hframes : x ∈ p.frames.scopes := by
    rcases List.mem_append.1 hx with hx | hx
    · exact hx
    · have h := hleaf x (by simpa using hx)
      cases x <;> simp [Scope.isLiteral, Scope.isLeaf, Scope.isFrame] at hliteral h
  obtain ⟨f, below, hstack, hf, rfl⟩ := hnested.exists_of_mem hframes hliteral
  intro leaf hmem
  have h := hadmitted leaf hmem
  rw [hstack] at h
  exact Frame.mem_leavesInside_of_admits hf h

/-- A leaf of values or of brackets stands in groups only. -/
theorem inValue_of_value (hadmitted : p.IsAdmitted) {leaf : Scope} (hmem : leaf ∈ p.leaf)
    (h : leaf.isValue ∨ ∃ kind : Bracket, leaf = kind.mark) : p.frames.InValue := by
  intro f hf
  obtain ⟨below, hstack⟩ := List.head?_eq_some_iff.1 hf
  have hadmits := hadmitted leaf hmem
  rw [hstack] at hadmits
  rw [Bool.eq_false_iff]
  intro hliteral
  exact Scope.leaf_notMem_leavesInside h (Frame.mem_leavesInside_of_admits hliteral hadmits)

/-- A bracket stands in a group of its kind. -/
theorem head?_of_mark (hadmitted : p.IsAdmitted) {kind : Bracket} (h : p.leaf = some kind.mark) :
    ∃ below, p.frames = .group kind :: below := by
  have hadmits := hadmitted kind.mark h
  cases hstack : p.frames with
  | nil =>
    rw [hstack] at hadmits
    cases kind <;> simp [Stack.admits, Bracket.mark, Scope.isValue] at hadmits
  | cons f below =>
    rw [hstack] at hadmits
    exact ⟨below, by rw [Frame.eq_group_of_admits_mark hadmits]⟩

end Piece

/-- A token that has the scopes of a piece shows what has read the piece. -/
theorem Token.readByInnermost_of_scopes {t : Token} {p : Piece} (h : t.scopes = p.scopes)
    (hnested : p.frames.Nested) (hadmitted : p.IsAdmitted)
    (hleaf : ∀ leaf ∈ p.leaf, leaf.isLeaf) : t.ReadByInnermost where
  -- The scopes of a token are those of its piece, and the piece stands where the scan was.
  scopes := by
    obtain ⟨kinds, literal, haround, hliteral⟩ := hnested.exists_around
    refine ⟨kinds, literal, ?_, hliteral⟩
    rw [← haround, ← around_eq h hleaf]
    exact scopes_eq h hleaf
  leaf_mem x hx hliteral := by
    rw [leaf?_eq h hleaf]
    exact Piece.leaf_mem_leavesInside hnested hadmitted hleaf (h ▸ hx) hliteral
  around_of_value leaf hmem hvalue := by
    rw [leaf?_eq h hleaf] at hmem
    rw [around_eq h hleaf]
    exact Stack.exists_kinds
      (hnested.isLiteral_of_inValue (Piece.inValue_of_value hadmitted hmem hvalue))
  innermost_of_mark kind hmark := by
    rw [leaf?_eq h hleaf] at hmark
    obtain ⟨below, hstack⟩ := Piece.head?_of_mark hadmitted hmark
    rw [around_eq h hleaf, hstack, Stack.around_cons, List.getLast?_concat]
    rfl

namespace Document

/--
**The innermost construct owns the scan.** In every document the scopes of a token are the root,
groups, at most one literal or comment inside them, and at most one leaf. With the scope of a
comment, a string, a character literal or a raw string the leaf is one of its delimiters, or of an
escape where there are escapes. Every other leaf stands in groups only, and the brackets of a group
stand directly in it.
-/
theorem readByInnermost_of_mem_tokens {text : List Char} {t : Token}
    (ht : t ∈ (ofText text).tokens) : t.ReadByInnermost := by
  obtain ⟨p, hcut, hscopes⟩ := exists_startsWith ht
  obtain ⟨s, line, hs, hp⟩ := hcut.exists_mem_scan
  exact Token.readByInnermost_of_scopes hscopes (hs.frames_of_mem_scan hp) (admitted_of_mem_scan hp)
    (isLeaf_of_mem_scan hp)

/-- A quote inside a comment is text of the comment, and the bracket around them is of its list. -/
theorem readByInnermost_of_mem_tokens_quote_in_comment :
    ⟨3, 4, [.source, .list, .blockComment]⟩ ∈ (ofText ['[', '/', '*', '"']).tokens ∧
    (Token.mk 3 4 [.source, .list, .blockComment]).ReadByInnermost ∧
    ⟨0, 1, [.source, .list, .brackets]⟩ ∈ (ofText ['[', '/', '*', '"']).tokens ∧
    (Token.mk 0 1 [.source, .list, .brackets]).around.getLast? = some Bracket.brackets.inside := by
  have hquote : ⟨3, 4, [.source, .list, .blockComment]⟩ ∈ (ofText ['[', '/', '*', '"']).tokens := by
    decide +kernel
  have hbracket : ⟨0, 1, [.source, .list, .brackets]⟩ ∈ (ofText ['[', '/', '*', '"']).tokens := by
    decide +kernel
  exact ⟨hquote, readByInnermost_of_mem_tokens hquote, hbracket,
    (readByInnermost_of_mem_tokens hbracket).innermost_of_mark .brackets rfl⟩

end Document

end RonWorkbench
