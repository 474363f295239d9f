import RonWorkbench.Proofs.Document.Tokens
import RonWorkbench.Proofs.Scan.Value

/-!
# Bracket matching

The brackets of a document are matched as a machine of their own would do it (`Bracket.run`): its
stack has kinds of brackets only, an opener pushes its kind, and a closer pops the innermost kind if
that is its own and is flagged otherwise. Fed with the bracket tokens of a document, the machine
flags those that are invalid, and comes to the groups that the document leaves open
(`Document.ofText_brackets`).

Which brackets of the text are bracket tokens depends on the pieces in which they stand: those that
are *exposed*, in no literal, comment or attribute. What one step of a scan does to the groups and
to exposed brackets is said once, in `Step.ActsOnGroups`. From there the machine is carried along
the scan of a line (`Scans.run_brackets`) and from line to line (`Document.run_brackets_piecesOf`);
no bracket piece is joined to others and a token has the text of its piece, so that the pieces may
be replaced by tokens.
-/

namespace RonWorkbench

/-! ### The machine -/

namespace Bracket

/-- The kinds that are open behind the character, and whether the character is flagged. -/
def feed (s : List Bracket) (c : Char) : List Bracket × Bool :=
  match ofOpen? c, ofClose? c with
  | some kind, _ => (kind :: s, false)
  | none, some kind => if s.head? = some kind then (s.tail, false) else (s, true)
  | none, none => (s, false)

/-- The kinds that are open behind the characters, innermost first, and their flags in order. -/
def run (s : List Bracket) : List Char → List Bracket × List Bool
  | [] => (s, [])
  | c :: more =>
    let next := feed s c
    let rest := run next.1 more
    (rest.1, next.2 :: rest.2)

/-- An opener opens its group, and is never wrong. -/
theorem feed_opener (s : List Bracket) (kind : Bracket) :
    feed s kind.opener = (kind :: s, false) := by
  cases kind <;> rfl

theorem feed_closer_cons (kind : Bracket) (s : List Bracket) :
    feed (kind :: s) kind.closer = (s, false) := by
  cases kind <;> rfl

/-- A closer that does not fit the innermost group is wrong, and leaves the groups as they are. -/
theorem feed_closer_of_head?_ne {s : List Bracket} {kind : Bracket} (h : s.head? ≠ some kind) :
    feed s kind.closer = (s, true) := by
  cases kind <;> exact if_neg h

theorem run_singleton (s : List Bracket) (c : Char) :
    run s [c] = ((feed s c).1, [(feed s c).2]) :=
  rfl

theorem run_append (s : List Bracket) (a b : List Char) :
    run s (a ++ b) = ((run (run s a).1 b).1, (run s a).2 ++ (run (run s a).1 b).2) := by
  induction a generalizing s with
  | nil => rfl
  | cons c a ih => rw [List.cons_append, run, ih, run, List.cons_append]

end Bracket

/-! ### Groups and bracket pieces -/

/-- The kind of a group. -/
def Frame.kind? : Frame → Option Bracket
  | group kind => some kind
  | _ => none

/-- The kinds of the open groups, innermost first. -/
def Stack.groups (s : Stack) : List Bracket :=
  s.filterMap Frame.kind?

/-- The leaf scope of a bracket, valid or not. -/
def Scope.isBracket : Scope → Bool
  | parens | brackets | braces | invalid => true
  | _ => false

/-- The mark of a group is a scope of brackets. -/
theorem Scope.isBracket_mark (kind : Bracket) : isBracket kind.mark := by
  cases kind <;> rfl

/-- A leaf of value position is no bracket, unless it marks a character as invalid. -/
theorem Scope.isBracket_eq_false_of_isValue {leaf : Scope} (h : leaf.isValue)
    (hne : leaf ≠ .invalid) : leaf.isBracket = false := by
  cases leaf <;> simp_all [isValue, isBracket]

namespace Frame

variable {f : Frame}

theorem kind?_of_isLiteral (hf : f.isLiteral) : f.kind? = none := by
  cases f <;> simp_all [isLiteral, kind?]

theorem isBracket_mark_of_isLiteral (hf : f.isLiteral) : f.mark.isBracket = false := by
  cases f <;> simp_all [isLiteral, mark, Scope.isBracket]

/-- What is open gives no scope of brackets; only the marks have one. -/
theorem isBracket_scope (f : Frame) : f.scope.isBracket = false := by
  cases f with
  | group kind => cases kind <;> rfl
  | _ => rfl

end Frame

namespace Stack

/-- A group that is open is counted among the groups. -/
theorem groups_cons_group (kind : Bracket) (below : Stack) :
    groups (.group kind :: below) = kind :: groups below :=
  rfl

/-- A literal is not counted among the groups: it neither opens nor closes one. -/
theorem groups_cons_of_isLiteral {f : Frame} (hf : f.isLiteral) (below : Stack) :
    groups (f :: below) = groups below := by
  rw [groups, List.filterMap_cons_none (Frame.kind?_of_isLiteral hf), groups]

/-- A construct that is dropped with its line is no group. -/
theorem groups_endLine (s : Stack) : s.endLine.groups = s.groups := by
  induction s with
  | nil => rfl
  | cons f below ih =>
    rw [endLine, List.dropWhile_cons]
    split
    · next hlocal =>
      have hf : f.isLiteral := by cases f <;> simp_all [Frame.isLineLocal, Frame.isLiteral]
      rw [groups_cons_of_isLiteral hf]
      exact ih
    · rfl

/-- In value position the innermost group, if any, is the innermost construct. -/
theorem InValue.head?_groups_eq_some_iff {s : Stack} (hs : s.InValue) {kind : Bracket} :
    s.groups.head? = some kind ↔ s.head? = some (.group kind) := by
  cases s with
  | nil => simp [groups]
  | cons f below =>
    cases f with
    | group other => simp [groups_cons_group]
    | _ => simp [InValue, Frame.isLiteral] at hs

end Stack

namespace Piece

/-- The piece is classified as a bracket, valid or not. -/
def isBracket (p : Piece) : Bool :=
  p.leaf.any Scope.isBracket

/-- The piece is classified as a closer that closes nothing. -/
def isFlagged (p : Piece) : Bool :=
  p.leaf == some .invalid

/-- The pieces that are classified as brackets. -/
def brackets (pieces : List Piece) : List Piece :=
  pieces.filter isBracket

/-- The piece is in no literal or comment, and is no line comment and no attribute itself. -/
def IsExposed (p : Piece) : Prop :=
  p.frames.InValue ∧ p.leaf ≠ some .lineComment ∧ p.leaf ≠ some .innerAttribute

/-- The piece is no bracket, and if it is exposed, it has none. -/
def HidesBrackets (p : Piece) : Prop :=
  p.isBracket = false ∧ (p.IsExposed → Bracket.Free p.text)

/-- The piece is a bracket, and it is exposed. -/
def ShowsBracket (p : Piece) : Prop :=
  p.isBracket ∧ p.IsExposed ∧ ∃ c, p.text = [c] ∧ Bracket.isMark c

/-- A mark in value position stands open to view. -/
theorem isExposed_mark (text : List Char) {u : Stack} (hu : u.InValue) (kind : Bracket) :
    IsExposed ⟨text, u, some kind.mark⟩ :=
  ⟨hu, by cases kind <;> simp [Bracket.mark], by cases kind <;> simp [Bracket.mark]⟩

theorem brackets_mark (text : List Char) (u : Stack) (kind : Bracket) :
    brackets [⟨text, u, some kind.mark⟩] = [⟨text, u, some kind.mark⟩] := by
  cases kind <;> rfl

theorem isFlagged_mark (text : List Char) (u : Stack) (kind : Bracket) :
    isFlagged ⟨text, u, some kind.mark⟩ = false := by
  cases kind <;> rfl

theorem brackets_append (a b : List Piece) : brackets (a ++ b) = brackets a ++ brackets b :=
  List.filter_append a b

/-- Where every piece hides its brackets, none is listed. -/
theorem brackets_eq_nil {pieces : List Piece} (h : ∀ p ∈ pieces, p.HidesBrackets) :
    brackets pieces = [] :=
  List.filter_eq_nil_iff.2 fun p hp ↦ by simp [(h p hp).1]

end Piece

/-! ### Steps -/

/-- All that a step can do to the groups and to exposed brackets. -/
inductive Step.ActsOnGroups (s : Stack) : Step → Prop
  /-- The groups stay, and no bracket is exposed. -/
  | keeps {t : Step} (hgroups : t.stack.groups = s.groups)
      (hpieces : ∀ p ∈ t.pieces, p.HidesBrackets) : ActsOnGroups s t
  /-- A group is opened. -/
  | opens (kind : Bracket) : ActsOnGroups s (.openFrame s (.group kind) kind.mark [kind.opener])
  /-- The innermost group is closed. -/
  | closes {kind : Bracket} (hs : s.head? = some (.group kind)) :
      ActsOnGroups s (.closeFrame s kind.mark [kind.closer])
  /-- A closer is met that is not of the kind of the innermost group. -/
  | strays {kind : Bracket} (hs : s.InValue) (hne : s.groups.head? ≠ some kind) :
      ActsOnGroups s (.classify s .invalid [kind.closer])

/-- Inside a literal or a comment brackets are hidden. -/
theorem hidesBrackets_of_not_inValue {p : Piece} (hframes : ¬p.frames.InValue)
    (hleaf : p.isBracket = false) : p.HidesBrackets :=
  ⟨hleaf, fun hexposed ↦ absurd hexposed.1 hframes⟩

/-- A member name, its blanks and its colon show no bracket. -/
theorem hidesBrackets_memberPieces {name gap : List Char} (hname : Bracket.Free name)
    (hgap : Bracket.Free gap) (s : Stack) :
    ∀ p ∈ Lexeme.memberPieces s name gap, p.HidesBrackets := by
  have hcolon : Bracket.Free [':'] := by decide
  refine List.forall_mem_cons.2 ⟨⟨rfl, fun _ ↦ hname⟩, List.forall_mem_append.2 ⟨?_, ?_⟩⟩
  · split
    · simp
    · exact List.forall_mem_singleton.2 ⟨rfl, fun _ ↦ hgap⟩
  · exact List.forall_mem_singleton.2 ⟨rfl, fun _ ↦ hcolon⟩

/-- **A step in value position acts on the groups as its brackets say.** -/
theorem actsOnGroups_of_actsInValue {s : Stack} (hs : s.InValue) {t : Step}
    (h : Step.ActsInValue s t) : Step.ActsOnGroups s t := by
  cases h with
  | @classify leaf text hleaf hne hfree =>
    refine .keeps rfl (List.forall_mem_singleton.2 ⟨?_, fun hexposed ↦ ?_⟩)
    · exact Scope.isBracket_eq_false_of_isValue hleaf hne
    · obtain ⟨-, hcomment, hattribute⟩ := hexposed
      -- of what is classified here only comments and attributes can have a bracket
      rcases hfree with rfl | rfl | hfree
      · exact absurd rfl hcomment
      · exact absurd rfl hattribute
      · exact hfree
  | member hname hgap => exact .keeps rfl (hidesBrackets_memberPieces hname hgap s)
  | @plain c hfree =>
    refine .keeps rfl (List.forall_mem_singleton.2 ⟨rfl, fun _ ↦ ?_⟩)
    exact Bracket.free_cons.2 ⟨hfree, Bracket.free_nil⟩
  | @opens f hf =>
    by_cases hliteral : f.isLiteral
    · -- an opener stands inside what it opens, so it is not exposed itself
      refine .keeps (Stack.groups_cons_of_isLiteral hliteral s)
        (List.forall_mem_singleton.2 (hidesBrackets_of_not_inValue ?_ ?_))
      · simp [Stack.InValue, hliteral]
      · exact Frame.isBracket_mark_of_isLiteral hliteral
    · cases f with
      | group kind => exact .opens kind
      | _ => simp [Frame.isLiteral] at hliteral
  | closes hhead => exact .closes hhead
  | strays hhead => exact .strays hs (mt hs.head?_groups_eq_some_iff.1 hhead)

/-- Inside a literal or a comment nothing is exposed, and no group is opened or closed. -/
theorem actsOnGroups_of_not_inValue {s : Stack} (hs : ¬s.InValue) {t : Step}
    (h : Step.Acts s t) : Step.ActsOnGroups s t := by
  cases h with
  | classify hs' | member hs' | opens hs' => exact absurd hs' hs
  | escape | plain =>
    exact .keeps rfl (List.forall_mem_singleton.2 (hidesBrackets_of_not_inValue hs rfl))
  | @closes f below =>
    have hf : f.isLiteral := by simpa [Stack.InValue] using hs
    refine .keeps (Stack.groups_cons_of_isLiteral hf below).symm
      (List.forall_mem_singleton.2 (hidesBrackets_of_not_inValue hs ?_))
    exact Frame.isBracket_mark_of_isLiteral hf
  | nests =>
    refine .keeps rfl (List.forall_mem_singleton.2 (hidesBrackets_of_not_inValue ?_ rfl))
    simp [Stack.InValue, Frame.isLiteral]
  | unnests =>
    refine .keeps ?_ (List.forall_mem_singleton.2 (hidesBrackets_of_not_inValue hs rfl))
    show Stack.groups (if _ then _ else _) = _
    split <;> rfl

/-- **Nothing but the actions of `Step.ActsOnGroups` happens to groups and exposed brackets.** -/
theorem actsOnGroups_scanStep (s : Stack) (c : Char) (rest : List Char) :
    Step.ActsOnGroups s (scanStep s c rest) := by
  by_cases hs : s.InValue
  · exact actsOnGroups_of_actsInValue hs (actsInValue_scanStep hs c rest)
  · exact actsOnGroups_of_not_inValue hs (acts_scanStep s c rest)

/-- **The machine follows a step.** -/
theorem Step.ActsOnGroups.run_brackets {s : Stack} {t : Step} (h : Step.ActsOnGroups s t) :
    Bracket.run s.groups (Piece.textOf (Piece.brackets t.pieces)) =
      (t.stack.groups, (Piece.brackets t.pieces).map Piece.isFlagged) := by
  cases h with
  | keeps hgroups hpieces =>
    rw [Piece.brackets_eq_nil hpieces, hgroups]
    rfl
  | opens kind =>
    show Bracket.run s.groups (Piece.textOf (Piece.brackets [⟨_, _, some kind.mark⟩])) =
      (_, (Piece.brackets [⟨_, _, some kind.mark⟩]).map Piece.isFlagged)
    rw [Piece.brackets_mark, List.map_singleton, Piece.isFlagged_mark]
    show Bracket.run s.groups [kind.opener] = _
    rw [Bracket.run_singleton, Bracket.feed_opener]
    rfl
  | @closes kind hs =>
    obtain ⟨below, rfl⟩ := List.head?_eq_some_iff.1 hs
    show Bracket.run _ (Piece.textOf (Piece.brackets [⟨_, _, some kind.mark⟩])) =
      (_, (Piece.brackets [⟨_, _, some kind.mark⟩]).map Piece.isFlagged)
    rw [Piece.brackets_mark, List.map_singleton, Piece.isFlagged_mark]
    show Bracket.run (kind :: Stack.groups below) [kind.closer] = _
    rw [Bracket.run_singleton, Bracket.feed_closer_cons]
    rfl
  | @strays kind _ hne =>
    show Bracket.run s.groups [kind.closer] = (s.groups, [true])
    rw [Bracket.run_singleton, Bracket.feed_closer_of_head?_ne hne]

/-- **A piece of a step hides its brackets or is one.** -/
theorem Step.ActsOnGroups.hides_or_shows {s : Stack} {t : Step} (h : Step.ActsOnGroups s t)
    {p : Piece} (hp : p ∈ t.pieces) : p.HidesBrackets ∨ p.ShowsBracket := by
  cases h with
  | keeps _ hpieces => exact .inl (hpieces p hp)
  | opens kind =>
    obtain rfl := List.mem_singleton.1 hp
    have hgroup : Stack.InValue (.group kind :: s) := by simp [Stack.InValue, Frame.isLiteral]
    exact .inr ⟨Scope.isBracket_mark kind, Piece.isExposed_mark _ hgroup kind, kind.opener, rfl,
      Bracket.isMark_opener kind⟩
  | @closes kind hs =>
    obtain rfl := List.mem_singleton.1 hp
    have hgroup : s.InValue := by simp [Stack.InValue, hs, Frame.isLiteral]
    exact .inr ⟨Scope.isBracket_mark kind, Piece.isExposed_mark _ hgroup kind, kind.closer, rfl,
      Bracket.isMark_closer kind⟩
  | @strays kind hs _ =>
    obtain rfl := List.mem_singleton.1 hp
    exact .inr ⟨rfl, ⟨hs, by simp, by simp⟩, kind.closer, rfl, Bracket.isMark_closer kind⟩

/-! ### Scans -/

/-- **The machine follows the scan of a line.** -/
theorem Scans.run_brackets {s u : Stack} {line rest : List Char} {pieces : List Piece}
    (h : Scans s line pieces u rest) :
    Bracket.run s.groups (Piece.textOf (Piece.brackets pieces)) =
      (u.groups, (Piece.brackets pieces).map Piece.isFlagged) := by
  induction h with
  | refl => rfl
  | @step s u c line rest pieces _ ih =>
    rw [Piece.brackets_append, Piece.textOf_append, Bracket.run_append,
      (actsOnGroups_scanStep s c line).run_brackets, ih, List.map_append]

/-- Of each piece of a line, either all brackets are hidden or it is one bracket that shows. -/
theorem hides_or_shows_of_mem_scan {s : Stack} {line : List Char} {p : Piece}
    (hp : p ∈ (scan s line).1) : p.HidesBrackets ∨ p.ShowsBracket :=
  forall_mem_scan (fun s c line _ ↦ (actsOnGroups_scanStep s c line).hides_or_shows) hp

/-- Of the pieces with a bracket in them just those are bracket pieces that are exposed. -/
theorem Piece.isBracket_iff_isExposed {p : Piece} (hp : p.HidesBrackets ∨ p.ShowsBracket) {c : Char}
    (hc : c ∈ p.text) (hmark : Bracket.isMark c) : p.isBracket ↔ p.IsExposed := by
  rcases hp with ⟨hleaf, hfree⟩ | ⟨hleaf, hexposed, -⟩
  · have hhidden : ¬p.IsExposed := fun hexposed ↦ by simp [hfree hexposed c hc] at hmark
    simp [hleaf, hhidden]
  · exact iff_of_true hleaf hexposed

/-! ### Tokens -/

theorem Piece.brackets_cons_of_isPlain {p : Piece} (hp : p.isPlain) (more : List Piece) :
    brackets (p :: more) = brackets more := by
  have hleaf : p.leaf = none := by simpa [isPlain] using hp
  exact List.filter_cons_of_neg (by simp [isBracket, hleaf])

/-- A bracket piece is not joined to others. -/
theorem Piece.brackets_join (pieces : List Piece) : brackets (join pieces) = brackets pieces := by
  induction pieces with
  | nil => rfl
  | cons p more ih =>
    have hcons (rest : List Piece) : brackets (p :: rest) = brackets [p] ++ brackets rest :=
      brackets_append [p] rest
    rw [hcons more, ← ih]
    cases hjoin : join more with
    | nil =>
      rw [join, hjoin]
      exact hcons []
    | cons q rest =>
      rw [join_cons_eq hjoin]
      split
      -- Only plain pieces are joined, and a plain piece is no bracket.
      · next hmerge =>
        simp only [Bool.and_eq_true] at hmerge
        obtain ⟨⟨hp, hq⟩, -⟩ := hmerge
        have hboth : isPlain { p with text := p.text ++ q.text } := hp
        rw [brackets_cons_of_isPlain hboth, brackets_cons_of_isPlain hp,
          brackets_cons_of_isPlain hq]
        rfl
      · exact hcons _

/-- The token is a bracket, valid or not. -/
def Token.isBracket (t : Token) : Bool :=
  t.leaf.isBracket

/-- What a token says of a bracket: its text, and whether it closes nothing. -/
def Token.seen (text : List Char) (t : Token) : Option (List Char) × Bool :=
  (t.text? text, t.leaf == .invalid)

/-- What a piece says of a bracket. -/
def Piece.seen (p : Piece) : Option (List Char) × Bool :=
  (some p.text, p.isFlagged)

/-- The last scope that open constructs give is no bracket. -/
theorem Stack.isBracket_getLast?_scopes (s : Stack) :
    (s.scopes.getLast?.getD .source).isBracket = false := by
  cases s with
  | nil => rfl
  | cons f below => simp [Frame.isBracket_scope]

/-- A token tells from its scopes whether it is a bracket. -/
theorem Token.isBracket_of_scopes {t : Token} {p : Piece} (h : t.scopes = p.scopes) :
    t.isBracket = p.isBracket := by
  rw [isBracket, leaf, h, Piece.scopes, Piece.isBracket]
  cases p.leaf with
  | none => simp [Stack.isBracket_getLast?_scopes]
  | some leaf => simp

/-- A token is flagged just if the piece that it was made of is. -/
theorem Token.isFlagged_of_scopes {t : Token} {p : Piece} (h : t.scopes = p.scopes) :
    (t.leaf == .invalid) = p.isFlagged := by
  rw [leaf, h, Piece.scopes, Piece.isFlagged]
  cases p.leaf with
  | none =>
    -- without a leaf the last scope is that of a construct, which is no bracket
    have hscopes := Stack.isBracket_getLast?_scopes p.frames
    cases hlast : p.frames.scopes.getLast?.getD .source <;> simp_all [Scope.isBracket]
  | some leaf => simp

/-- The brackets of tokens that are laid out in a text are those of their pieces. -/
theorem Token.map_seen_layout (before after : List Char) (pieces : List Piece) :
    ((layout (Text.byteLength before) pieces).filter isBracket).map
        (seen (before ++ (Piece.textOf pieces ++ after))) =
      (Piece.brackets pieces).map Piece.seen := by
  induction pieces generalizing before with
  | nil => rfl
  | cons p pieces ih =>
    have hmore := ih (before ++ p.text)
    rw [Text.byteLength_append, List.append_assoc] at hmore
    rw [layout, Piece.textOf_cons, Piece.brackets, List.filter_cons, List.filter_cons,
      isBracket_of_scopes rfl, List.append_assoc]
    split
    · rw [List.map_cons, List.map_cons, hmore, seen, isFlagged_of_scopes rfl, text?,
        Text.slice?_append]
      rfl
    · exact hmore

/-- Of a line in its text it is the same. -/
theorem Token.map_seen_tokenizeLine (s : Stack) (before line after : List Char) :
    (((tokenizeLine line s).tokens.map (shift (Text.byteLength before))).filter isBracket).map
        (seen (before ++ (line ++ after))) =
      (Piece.brackets (scan s line).1).map Piece.seen := by
  have h := map_seen_layout before after (Piece.join (scan s line).1)
  rwa [Piece.textOf_join, textOf_scan, Piece.brackets_join, ← Nat.zero_add (Text.byteLength before),
    layout_add] at h

namespace Document

/-- The bracket tokens of a document, in their order. -/
def brackets (d : Document) : List Token :=
  d.tokens.filter Token.isBracket

/-- What the scans of lines cut off, one behind the other. -/
def piecesOf : Stack → List Text.Line → List Piece
  | _, [] => []
  | s, line :: more => (scan s line.text).1 ++ piecesOf (tokenizeLine line.text s).stack more

/-- **The machine follows the scans of lines.** -/
theorem run_brackets_piecesOf (s : Stack) (lines : List Text.Line) :
    Bracket.run s.groups (Piece.textOf (Piece.brackets (piecesOf s lines))) =
      ((s.afterLines (lines.map Text.Line.text)).groups,
        (Piece.brackets (piecesOf s lines)).map Piece.isFlagged) := by
  induction lines generalizing s with
  | nil => rfl
  | cons line lines ih =>
    have hline := (scans_scan s line.text).run_brackets
    -- what the line drops at its end is no group
    rw [← Stack.groups_endLine (scan s line.text).2, ← Stack.tokenizeLine_stack] at hline
    rw [piecesOf, Piece.brackets_append, Piece.textOf_append, Bracket.run_append, hline, ih,
      List.map_append, List.map_cons, Stack.afterLines_cons]

/-- Of each piece of many lines, too, all brackets are hidden or it is one bracket that shows. -/
theorem hides_or_shows_of_mem_piecesOf {s : Stack} {lines : List Text.Line} {p : Piece}
    (hp : p ∈ piecesOf s lines) : p.HidesBrackets ∨ p.ShowsBracket := by
  induction lines generalizing s with
  | nil => simp [piecesOf] at hp
  | cons line lines ih =>
    rw [piecesOf] at hp
    rcases List.mem_append.1 hp with hp | hp
    · exact hides_or_shows_of_mem_scan hp
    · exact ih hp

/-- **The brackets among the tokens are those among the pieces**, seen at the same places. -/
theorem map_seen_classify {text : List Char} {lines : List Text.Line}
    (hlines : ∀ line ∈ lines, line ∈ Text.lines text) (number : Nat) (s : Stack) :
    (((Line.classify number s lines).1.flatMap fun line ↦
        line.tokens.map (Token.shift line.offset)).filter Token.isBracket).map (Token.seen text) =
      (Piece.brackets (piecesOf s lines)).map Piece.seen := by
  induction lines generalizing number s with
  | nil => rfl
  | cons line lines ih =>
    obtain ⟨hline, hmore⟩ := List.forall_mem_cons.1 hlines
    obtain ⟨before, after, htext, hoffset, -⟩ := Text.exists_append_of_mem_lines hline
    have hfirst := Token.map_seen_tokenizeLine s before line.text after
    rw [← htext, hoffset] at hfirst
    rw [Line.classify, List.flatMap_cons, List.filter_append, List.map_append, hfirst, ih hmore,
      piecesOf, Piece.brackets_append, List.map_append]

/-- The bracket tokens of a document show the bracket pieces of its scans. -/
theorem map_seen_brackets (text : List Char) :
    (ofText text).brackets.map (Token.seen text) =
      (Piece.brackets (piecesOf [] (Text.lines text))).map Piece.seen :=
  map_seen_classify (fun _ hline ↦ hline) 0 []

/-- A bracket in a piece is in a token, which is a bracket token just if the piece is exposed. -/
theorem exists_mem_tokens_of_standsIn {text : List Char} {i : Nat} {c : Char} {p : Piece}
    (h : StandsIn text i c p) (hmark : Bracket.isMark c) :
    ∃ t ∈ (ofText text).tokens, t.Contains i ∧
      (t.isBracket ↔ (∀ f ∈ p.frames, f.isLiteral = false) ∧ p.leaf ≠ some .lineComment ∧
        p.leaf ≠ some .innerAttribute) := by
  obtain ⟨start, inner, outer, hcut, hinner, rfl⟩ := h
  obtain ⟨t, ht, hscopes, hstart, hstop⟩ := exists_mem_tokens_of_cutsOff hcut
  obtain ⟨s, line, hs, hmem⟩ := hcut.exists_mem_scan
  refine ⟨t, ht, ⟨by omega, ?_⟩, ?_⟩
  · have hpos := c.utf8Size_pos
    rw [hinner, Text.byteLength_append, Text.byteLength_cons] at hstop
    omega
  · -- only the innermost construct can be a literal, so that one tells of all
    have hgroups : p.frames.InValue ↔ ∀ f ∈ p.frames, f.isLiteral = false :=
      ⟨(hs.frames_of_mem_scan hmem).isLiteral_of_inValue, Stack.inValue_of_groups⟩
    rw [Token.isBracket_of_scopes hscopes, ← hgroups]
    exact Piece.isBracket_iff_isExposed (hides_or_shows_of_mem_scan hmem) (by simp [hinner]) hmark

/-- Each bracket of the text is in a piece. -/
theorem exists_standsIn_of_isMark {text before after : List Char} {c : Char}
    (htext : text = before ++ c :: after) (hmark : Bracket.isMark c) :
    ∃ p, StandsIn text (Text.byteLength before) c p := by
  refine exists_standsIn htext ?_ ?_
  · rintro rfl
    exact absurd hmark (by decide)
  · rintro rfl
    exact absurd hmark (by decide)

/--
**Brackets are matched as a machine matches them.** Each bracket token is a single bracket, and fed
with these brackets the machine flags those whose tokens are invalid and comes to the groups that
the document leaves open. A bracket of the text is in a bracket token just if no literal or comment
is open for the piece in which it stands, and the piece is no line comment and no attribute.
-/
theorem ofText_brackets (text : List Char) :
    (∀ t ∈ (ofText text).brackets, ∃ c, t.text? text = some [c] ∧ Bracket.isMark c) ∧
    Bracket.run [] ((ofText text).brackets.flatMap fun t ↦ (t.text? text).getD []) =
      ((ofText text).stack.groups, (ofText text).brackets.map fun t ↦ t.leaf == .invalid) ∧
    ∀ before c after, text = before ++ c :: after → Bracket.isMark c →
      (∃ p, StandsIn text (Text.byteLength before) c p) ∧
      ∀ p, StandsIn text (Text.byteLength before) c p →
        ∃ t ∈ (ofText text).tokens, t.Contains (Text.byteLength before) ∧
          (t.isBracket ↔ (∀ f ∈ p.frames, f.isLiteral = false) ∧ p.leaf ≠ some .lineComment ∧
            p.leaf ≠ some .innerAttribute) := by
  have hseen := map_seen_brackets text
  refine ⟨fun t ht ↦ ?_, ?_, fun before c after htext hmark ↦
    ⟨exists_standsIn_of_isMark htext hmark, fun p hp ↦ exists_mem_tokens_of_standsIn hp hmark⟩⟩
  · have hmem := List.mem_map_of_mem (f := Token.seen text) ht
    rw [hseen] at hmem
    obtain ⟨p, hp, hshown⟩ := List.mem_map.1 hmem
    obtain ⟨hpieces, hbracket⟩ := List.mem_filter.1 hp
    obtain ⟨htext, -⟩ := Prod.mk.inj hshown
    rcases hides_or_shows_of_mem_piecesOf hpieces with hhides | ⟨-, -, c, hc, hmark⟩
    · simp [hhides.1] at hbracket
    · exact ⟨c, by rw [← htext, hc], hmark⟩
  -- What is seen of the tokens is what is seen of the pieces, on which the machine runs step by
  -- step.
  · have htexts : (ofText text).brackets.flatMap (fun t ↦ (t.text? text).getD []) =
        Piece.textOf (Piece.brackets (piecesOf [] (Text.lines text))) := by
      have h := congrArg (fun shown ↦ (shown.map fun o ↦ o.1.getD []).flatten) hseen
      simpa [Function.comp_def, Token.seen, Piece.seen, Piece.textOf, List.flatMap] using h
    have hflags : (ofText text).brackets.map (fun t ↦ t.leaf == .invalid) =
        (Piece.brackets (piecesOf [] (Text.lines text))).map Piece.isFlagged := by
      have h := congrArg (List.map Prod.snd) hseen
      simpa [Function.comp_def, Token.seen, Piece.seen] using h
    rw [htexts, hflags, stack_ofText]
    exact run_brackets_piecesOf [] (Text.lines text)

/-- A parenthesis in a comment is no bracket token, and a closer of another kind is flagged. -/
theorem ofText_brackets_comment_and_stray :
    ((ofText ['/', '/', '(', '\n', '(', ']', ')', '[']).stack.groups,
        (ofText ['/', '/', '(', '\n', '(', ']', ')', '[']).brackets.map
          fun t ↦ t.leaf == .invalid) = ([.brackets], [false, true, false, false]) ∧
    ∃ t ∈ (ofText ['/', '/', '(', '\n', '(', ']', ')', '[']).tokens,
      t.Contains 2 ∧ t.isBracket = false := by
  obtain ⟨-, hrun, hall⟩ := ofText_brackets ['/', '/', '(', '\n', '(', ']', ')', '[']
  have htexts : (ofText ['/', '/', '(', '\n', '(', ']', ')', '[']).brackets.flatMap (fun t ↦
      (t.text? ['/', '/', '(', '\n', '(', ']', ')', '[']).getD []) = ['(', ']', ')', '['] := by
    decide +kernel
  have hcomment : StandsIn ['/', '/', '(', '\n', '(', ']', ')', '['] 2 '('
      ⟨['/', '/', '('], [], some .lineComment⟩ :=
    ⟨0, ['/', '/'], [], ⟨[], ⟨0, ['/', '/', '(']⟩, [⟨4, ['(', ']', ')', '[']⟩], [], [],
      by decide +kernel, by decide +kernel, rfl⟩, rfl, by decide⟩
  rw [htexts] at hrun
  obtain ⟨-, htoken⟩ := hall ['/', '/'] '(' ['\n', '(', ']', ')', '['] rfl (by decide)
  obtain ⟨t, ht, hcontains, hiff⟩ := htoken _ hcomment
  exact ⟨hrun.symm, t, ht, hcontains, by simpa using hiff⟩

end Document

end RonWorkbench
