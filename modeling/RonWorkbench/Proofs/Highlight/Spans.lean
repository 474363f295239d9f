import RonWorkbench.Highlight.Basic
import RonWorkbench.Proofs.Document.Lines

/-!
# The spans of a text in the text

Each span of a text is a stretch of it, and the spans follow each other
(`Highlight.isStretch_of_mem_ofText`, `Highlight.pairwise_ofText`). Tokens have both properties, and
joining keeps them: touching spans are joined at an offset where one stretch stops and the other
starts, which is how joined spans come to lie within one line. No line has to be looked at for that.
-/

namespace RonWorkbench.Highlight

namespace Span

/-! ### Joining -/

/-- A joined span starts with one of the spans it is made of. -/
theorem exists_start_eq_of_mem_join {spans : List Span} {q : Span} (h : q ∈ join spans) :
    ∃ p ∈ spans, p.start = q.start := by
  induction spans generalizing q with
  | nil => simp [join] at h
  | cons p spans ih =>
    have hmore {r : Span} (hr : r ∈ join spans) : ∃ p' ∈ p :: spans, p'.start = r.start := by
      obtain ⟨p', hp', hstart⟩ := ih hr
      exact ⟨p', List.mem_cons_of_mem p hp', hstart⟩
    rw [join] at h
    -- A joined span starts where the first of its parts did.
    split at h
    · rcases List.mem_singleton.1 h with rfl
      exact ⟨q, List.mem_cons_self, rfl⟩
    · next r rest hjoin =>
      rw [hjoin] at hmore
      split at h
      · rcases List.mem_cons.1 h with rfl | h
        · exact ⟨p, List.mem_cons_self, rfl⟩
        · exact hmore (List.mem_cons_of_mem r h)
      · rcases List.mem_cons.1 h with rfl | h
        · exact ⟨q, List.mem_cons_self, rfl⟩
        · exact hmore h

theorem pairwise_join {spans : List Span} (h : spans.Pairwise fun p q ↦ p.stop ≤ q.start) :
    (join spans).Pairwise fun p q ↦ p.stop ≤ q.start := by
  induction spans with
  | nil => simp [join]
  | cons p spans ih =>
    obtain ⟨hfirst, hmore⟩ := List.pairwise_cons.1 h
    have hjoin : ∀ q ∈ join spans, p.stop ≤ q.start := by
      intro q hq
      obtain ⟨p', hp', hstart⟩ := exists_start_eq_of_mem_join hq
      exact hstart ▸ hfirst p' hp'
    have ih := ih hmore
    rw [join]
    split
    · exact List.pairwise_singleton _ p
    · next q rest hq =>
      rw [hq] at ih hjoin
      split
      · -- the joined span stops where the next one did
        exact List.pairwise_cons.2 (List.pairwise_cons.1 ih)
      · exact List.pairwise_cons.2 ⟨hjoin, ih⟩

theorem isStretch_of_mem_join {text : List Char} {spans : List Span}
    (h : ∀ p ∈ spans, Text.IsStretch text p.start p.stop) :
    ∀ q ∈ join spans, Text.IsStretch text q.start q.stop := by
  induction spans with
  | nil => simp [join]
  | cons p spans ih =>
    obtain ⟨hfirst, hmore⟩ := List.forall_mem_cons.1 h
    have ih := ih hmore
    rw [join]
    split
    · exact List.forall_mem_singleton.2 hfirst
    · next q rest hq =>
      rw [hq] at ih
      split
      · next htouch =>
        obtain ⟨hnext, hrest⟩ := List.forall_mem_cons.1 ih
        rw [← htouch.2] at hnext
        exact List.forall_mem_cons.2 ⟨hfirst.append hnext, hrest⟩
      · exact List.forall_mem_cons.2 ⟨hfirst, ih⟩

theorem eq_of_ofToken?_eq_some {offset : Nat} {t : Token} {p : Span}
    (h : ofToken? offset t = some p) : p.start = offset + t.start ∧ p.stop = offset + t.stop := by
  obtain ⟨kind, -, rfl⟩ := Option.map_eq_some_iff.1 h
  exact ⟨rfl, rfl⟩

end Span

/-! ### The spans of a text -/

section OfText

variable (text : List Char)

/-- Before they are joined, the spans are those of tokens. -/
theorem isStretch_of_mem_flatMap :
    ∀ p ∈ (Document.ofText text).lines.flatMap fun line ↦
      line.tokens.filterMap (Span.ofToken? line.offset), Text.IsStretch text p.start p.stop := by
  intro p hp
  obtain ⟨line, hline, hp⟩ := List.mem_flatMap.1 hp
  obtain ⟨t, ht, htoken⟩ := List.mem_filterMap.1 hp
  obtain ⟨hstart, hstop⟩ := Span.eq_of_ofToken?_eq_some htoken
  rw [hstart, hstop]
  exact Document.isStretch_of_mem_tokens hline ht

theorem isStretch_of_mem_ofText :
    ∀ p ∈ ofText text, Text.IsStretch text p.start p.stop :=
  Span.isStretch_of_mem_join (isStretch_of_mem_flatMap text)

theorem pairwise_ofText : (ofText text).Pairwise fun p q ↦ p.stop ≤ q.start := by
  refine Span.pairwise_join (List.pairwise_flatMap.2 ⟨fun line hline ↦ ?_, ?_⟩)
  · -- within a line
    refine (Document.pairwise_tokens hline).filterMap _ fun a b hab p hp q hq ↦ ?_
    obtain ⟨-, hstop⟩ := Span.eq_of_ofToken?_eq_some hp
    obtain ⟨hstart, -⟩ := Span.eq_of_ofToken?_eq_some hq
    omega
  · -- across lines, where the first span ends with its line at the latest
    refine (Document.pairwise_lines text).imp_of_mem fun {a b} ha hb hab p hp q hq ↦ ?_
    obtain ⟨t, ht, htoken⟩ := List.mem_filterMap.1 hp
    obtain ⟨-, hstop⟩ := Span.eq_of_ofToken?_eq_some htoken
    obtain ⟨u, -, hnext⟩ := List.mem_filterMap.1 hq
    obtain ⟨hstart, -⟩ := Span.eq_of_ofToken?_eq_some hnext
    have hend := Document.stop_le_of_mem_tokens ha ht
    omega

end OfText

end RonWorkbench.Highlight
