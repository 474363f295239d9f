import RonWorkbench.Proofs.Document.Tokens
import RonWorkbench.Proofs.Highlight.Spans
import RonWorkbench.Proofs.Scan.Value

/-!
# Spans are the runs of one kind

The spans of a text are the longest runs of bytes whose tokens are of one kind
(`Highlight.ofText_runs`). Joining has two properties for that, which are shown along its recursion:
it keeps the bytes of each kind (`Span.exists_contains_join_iff`), and spans that still touch have
different kinds (`Span.isChain_join`).

Which tokens have no kind is a matter of scopes. A scope of an open literal or comment decides a
kind, so a token without one stands in groups only; there the leaf scopes are those of values
(`Stack.admits`), and of these just commas, brackets and invalid closers decide none.
-/

namespace RonWorkbench.Highlight

/-! ### Tokens without a kind -/

namespace Kind

theorem ofScope?_scope_eq_none_iff {f : Frame} :
    ofScope? f.scope = none ↔ f.isLiteral = false := by
  cases f with
  | group kind => cases kind <;> simp [ofScope?, Frame.scope, Bracket.inside, Frame.isLiteral]
  | _ => simp [ofScope?, Frame.scope, Frame.isLiteral]

theorem ofScope?_mark (kind : Bracket) : ofScope? kind.mark = none := by
  cases kind <;> rfl

/-- A leaf of a piece in value position decides no kind if it is one of four structural ones. -/
theorem ofScope?_eq_none_iff_of_admits {s : Stack} (hs : s.InValue) {leaf : Scope}
    (h : s.admits leaf) :
    ofScope? leaf = none ↔
      leaf = .comma ∨ (∃ kind : Bracket, leaf = kind.mark) ∨ leaf = .invalid := by
  rcases hs.isValue_or_mark h with hvalue | ⟨kind, rfl⟩
  · have hmark : ¬∃ kind : Bracket, leaf = kind.mark := by
      rintro ⟨kind, rfl⟩
      cases kind <;> simp [Bracket.mark, Scope.isValue] at hvalue
    simp only [hmark, false_or]
    cases leaf <;> simp [Scope.isValue, ofScope?] at hvalue ⊢
  · simp [ofScope?_mark]

theorem ofScopes?_eq_none_iff {scopes : List Scope} :
    ofScopes? scopes = none ↔ ∀ s ∈ scopes, ofScope? s = none := by
  simp [ofScopes?]

/-- **A piece has no kind just where it is structure**: in groups only, and no value. -/
theorem ofScopes?_eq_none_iff_of_isAdmitted {p : Piece} (hp : p.IsAdmitted) :
    ofScopes? p.scopes = none ↔
      (∀ f ∈ p.frames, f.isLiteral = false) ∧
        (p.leaf = none ∨ p.leaf = some .comma ∨ (∃ kind : Bracket, p.leaf = some kind.mark) ∨
          p.leaf = some .invalid) := by
  have hscopes : ofScopes? p.scopes = none ↔
      (∀ f ∈ p.frames, f.isLiteral = false) ∧ ∀ leaf ∈ p.leaf, ofScope? leaf = none := by
    simp [ofScopes?_eq_none_iff, Piece.scopes, Stack.scopes, ← ofScope?_scope_eq_none_iff, or_imp,
      forall_and, ofScope?]
  rw [hscopes]
  refine and_congr_right fun hgroups ↦ ?_
  cases hleaf : p.leaf with
  | none => simp
  | some leaf =>
    have hiff := ofScope?_eq_none_iff_of_admits (Stack.inValue_of_groups hgroups) (hp leaf hleaf)
    simpa using hiff

end Kind

/-! ### Joining -/

namespace Span

/-- The byte is one of the span's. -/
def Contains (p : Span) (i : Nat) : Prop :=
  p.start ≤ i ∧ i < p.stop

instance (p : Span) (i : Nat) : Decidable (p.Contains i) :=
  inferInstanceAs (Decidable (_ ∧ _))

theorem start_lt_stop_of_isStretch {text : List Char} {start stop : Nat}
    (h : Text.IsStretch text start stop) : start < stop := by
  obtain ⟨before, inside, after, -, -, hstop, hne, -⟩ := h
  have hpos := Text.byteLength_pos hne
  omega

/-- **Joining keeps the bytes of each kind.** -/
theorem exists_contains_join_iff {text : List Char} {spans : List Span}
    (h : ∀ p ∈ spans, Text.IsStretch text p.start p.stop) (kind : Kind) (i : Nat) :
    (∃ p ∈ join spans, p.kind = kind ∧ p.Contains i) ↔
      ∃ p ∈ spans, p.kind = kind ∧ p.Contains i := by
  induction spans with
  | nil => simp [join]
  | cons p spans ih =>
    obtain ⟨hp, hmore⟩ := List.forall_mem_cons.1 h
    have hjoin := isStretch_of_mem_join hmore
    have ih := ih hmore
    rw [join]
    split
    · next hq =>
      rw [hq] at ih
      rw [List.exists_mem_cons_iff, List.exists_mem_cons_iff, ih]
    · next q rest hq =>
      rw [hq] at ih hjoin
      have hlt := start_lt_stop_of_isStretch hp
      have hnext := start_lt_stop_of_isStretch (hjoin q List.mem_cons_self)
      rw [List.exists_mem_cons_iff, ← ih, List.exists_mem_cons_iff]
      split
      · next htouch =>
        obtain ⟨hkind, hstop⟩ := htouch
        -- the bytes of two touching spans are those of the one that they make up
        have hboth : (Span.mk p.kind p.start q.stop).Contains i ↔
            p.Contains i ∨ q.Contains i := by
          simp only [Contains]
          omega
        rw [List.exists_mem_cons_iff, hboth, hkind, and_or_left, or_assoc]
      · rw [List.exists_mem_cons_iff, List.exists_mem_cons_iff]

/-- **Joined spans that touch have different kinds.** -/
theorem isChain_join (spans : List Span) :
    (join spans).IsChain fun p q ↦ p.stop = q.start → p.kind ≠ q.kind := by
  induction spans with
  | nil => exact .nil
  | cons p spans ih =>
    rw [join]
    split
    · exact .singleton p
    · next q rest hq =>
      rw [hq] at ih
      split
      · next htouch =>
        -- the joined span stops where the next one did and has its kind
        cases rest with
        | nil => exact .singleton _
        | cons r rest =>
          obtain ⟨hfirst, hrest⟩ := List.isChain_cons_cons.1 ih
          refine List.isChain_cons_cons.2 ⟨fun hstop ↦ ?_, hrest⟩
          rw [htouch.1]
          exact hfirst hstop
      · next htouch =>
        refine List.isChain_cons_cons.2 ⟨fun hstop hkind ↦ htouch ⟨hkind, hstop⟩, ih⟩

end Span

/-! ### The spans of a text -/

/-- **A byte is in a span of a kind just where it is in a token of that kind.** -/
theorem exists_contains_ofText_iff (text : List Char) (kind : Kind) (i : Nat) :
    (∃ p ∈ ofText text, p.kind = kind ∧ p.Contains i) ↔
      ∃ t ∈ (Document.ofText text).tokens, t.Contains i ∧ Kind.ofScopes? t.scopes = some kind := by
  rw [ofText, ofDocument, Span.exists_contains_join_iff (isStretch_of_mem_flatMap text)]
  constructor
  · rintro ⟨p, hp, rfl, hi⟩
    obtain ⟨line, hline, hp⟩ := List.mem_flatMap.1 hp
    obtain ⟨t, ht, htoken⟩ := List.mem_filterMap.1 hp
    obtain ⟨kind, hkind, rfl⟩ := Option.map_eq_some_iff.1 htoken
    refine ⟨t.shift line.offset, Document.mem_tokens_iff.2 ⟨line, hline, t, ht, rfl⟩, ?_, hkind⟩
    simpa [Token.Contains, Token.shift, Span.Contains, Nat.add_comm] using hi
  · rintro ⟨t, ht, hi, hkind⟩
    obtain ⟨line, hline, u, hu, rfl⟩ := Document.mem_tokens_iff.1 ht
    have hspan : Span.ofToken? line.offset u =
        some ⟨kind, line.offset + u.start, line.offset + u.stop⟩ :=
      Option.map_eq_some_iff.2 ⟨kind, hkind, rfl⟩
    refine ⟨_, List.mem_flatMap.2 ⟨line, hline, List.mem_filterMap.2 ⟨u, hu, hspan⟩⟩, rfl, ?_⟩
    simpa [Token.Contains, Token.shift, Span.Contains, Nat.add_comm] using hi

/--
**The spans of a text are its longest runs of one kind.** They are stretches of the text, with at
least one byte each and one behind the other. Each of their bytes is in a token, and of the bytes
of a token those are in a span of a kind for which the token is of that kind; where two spans touch,
their kinds differ.

A token has no kind just if no literal or comment is open for the piece with which it begins, and
the piece is plain, a comma, a bracket or an invalid closer.
-/
theorem ofText_runs (text : List Char) :
    (∀ p ∈ ofText text, Text.IsStretch text p.start p.stop ∧ p.start < p.stop) ∧
    (ofText text).Pairwise (fun p q ↦ p.stop ≤ q.start) ∧
    (∀ p ∈ ofText text, ∀ i, p.Contains i →
      ∃ t ∈ (Document.ofText text).tokens, t.Contains i) ∧
    (∀ t ∈ (Document.ofText text).tokens, ∀ i, t.Contains i → ∀ kind,
      (∃ p ∈ ofText text, p.kind = kind ∧ p.Contains i) ↔ Kind.ofScopes? t.scopes = some kind) ∧
    (ofText text).IsChain (fun p q ↦ p.stop = q.start → p.kind ≠ q.kind) ∧
    (∀ t ∈ (Document.ofText text).tokens, ∃ p, Document.StartsWith text t p) ∧
    ∀ t p, Document.StartsWith text t p →
      (Kind.ofScopes? t.scopes = none ↔
        (∀ f ∈ p.frames, f.isLiteral = false) ∧
          (p.leaf = none ∨ p.leaf = some .comma ∨ (∃ kind : Bracket, p.leaf = some kind.mark) ∨
            p.leaf = some .invalid)) := by
  refine ⟨fun p hp ↦ ?_, pairwise_ofText text, fun p hp i hi ↦ ?_, fun t ht i hi kind ↦ ?_,
    Span.isChain_join _, fun t ↦ Document.exists_startsWith, fun t p hstarts ↦ ?_⟩
  · have hstretch := isStretch_of_mem_ofText text p hp
    exact ⟨hstretch, Span.start_lt_stop_of_isStretch hstretch⟩
  · obtain ⟨t, ht, hti, -⟩ := (exists_contains_ofText_iff text p.kind i).1 ⟨p, hp, rfl, hi⟩
    exact ⟨t, ht, hti⟩
  · rw [exists_contains_ofText_iff]
    constructor
    · rintro ⟨u, hu, hui, hkind⟩
      rwa [Document.eq_of_contains ht hu hi hui]
    · exact fun hkind ↦ ⟨t, ht, hi, hkind⟩
  · obtain ⟨hcut, hscopes⟩ := hstarts
    obtain ⟨s, line, -, hmem⟩ := hcut.exists_mem_scan
    rw [hscopes]
    exact Kind.ofScopes?_eq_none_iff_of_isAdmitted (admitted_of_mem_scan hmem)

/-- A string over two lines has a span in each, and the comma behind it is in none. -/
theorem ofText_runs_string_over_lines :
    ofText ['"', 'a', '\n', 'b', '"', ','] = [⟨.string, 0, 2⟩, ⟨.string, 3, 5⟩] ∧
    Text.IsStretch ['"', 'a', '\n', 'b', '"', ','] 3 5 ∧
    ¬∃ p ∈ ofText ['"', 'a', '\n', 'b', '"', ','], p.kind = .string ∧ p.Contains 5 := by
  have hspans : ofText ['"', 'a', '\n', 'b', '"', ','] =
      [⟨.string, 0, 2⟩, ⟨.string, 3, 5⟩] := by decide +kernel
  have hcomma : ⟨5, 6, [.source, .comma]⟩ ∈
      (Document.ofText ['"', 'a', '\n', 'b', '"', ',']).tokens := by decide +kernel
  obtain ⟨hstretch, -, -, hkinds, -⟩ := ofText_runs ['"', 'a', '\n', 'b', '"', ',']
  refine ⟨hspans, (hstretch ⟨.string, 3, 5⟩ (by simp [hspans])).1, ?_⟩
  rw [hkinds _ hcomma 5 (by decide) .string]
  decide

end RonWorkbench.Highlight
