import RonWorkbench.Highlight.Relative
import RonWorkbench.Proofs.Highlight.Spans
import RonWorkbench.Proofs.Text.LineIndex

/-!
# Reading back the spans that an editor is sent

What an editor reads are the places of the spans, and these can be told from the text without an
index of its lines: `Span.site?` counts the newlines in front of a span and measures, in UTF-16
units, the rest of the line in front of it and its own text. `decode_encode?` says that nothing is
lost or shifted on the way.

Three differences are written, and natural numbers cut each of them off at zero. The length is none
of them because a span stops on the line on which it starts (`Span.exists_positions`). The
other two depend on the span before it, which stops where the next one starts at the latest; so
the places come one after the other (`Span.before_of_stop_le`), and places in that order
are written exactly (`Relative.exact_of_pairwise`) and read back (`Relative.decode_ofPlaced`).
-/

namespace RonWorkbench.Highlight

/-- One place comes before another: on a line above, or on the same line and not over it. -/
def Placed.Before (p q : Placed) : Prop :=
  p.line < q.line ∨ p.line = q.line ∧ p.column + p.length ≤ q.column

instance (p q : Placed) : Decidable (p.Before q) :=
  inferInstanceAs (Decidable (_ ∨ _))

/-! ### The places of spans -/

namespace Span

/-- Where a span is, told from the text in front of it and its own text. -/
def site? (text : List Char) (s : Span) : Option Placed := do
  let (before, _) ← Text.splitAtByte? s.start text
  let inside ← Text.slice? s.start s.stop text
  return ⟨s.kind, before.count '\n', Text.utf16Length (Text.lastLine before),
    Text.utf16Length inside⟩

theorem site?_eq_some_iff {text : List Char} {s : Span} {p : Placed} :
    s.site? text = some p ↔ ∃ before inside after,
      text = before ++ (inside ++ after) ∧ Text.byteLength before = s.start ∧
        s.start + Text.byteLength inside = s.stop ∧
        p = ⟨s.kind, before.count '\n', Text.utf16Length (Text.lastLine before),
          Text.utf16Length inside⟩ := by
  constructor
  · intro h
    obtain ⟨⟨before, rest⟩, hcut, hrest⟩ := Option.bind_eq_some_iff.1 h
    obtain ⟨inside, hslice, hplace⟩ := Option.bind_eq_some_iff.1 hrest
    obtain ⟨rfl, hstart⟩ := Text.eq_append_of_splitAtByte? hcut
    obtain ⟨before', after, htext, hstart', hstop⟩ := Text.slice?_eq_some_iff.1 hslice
    obtain ⟨rfl, rfl⟩ := Text.eq_of_append_eq_append htext (hstart.trans hstart'.symm)
    exact ⟨before, inside, after, rfl, hstart, hstop, (Option.some.inj hplace).symm⟩
  · rintro ⟨before, inside, after, rfl, hstart, hstop, rfl⟩
    rw [site?, ← hstop, ← hstart, Text.splitAtByte?_byteLength, Text.slice?_append]
    rfl

variable {text : List Char} {s : Span} (h : Text.IsStretch text s.start s.stop)
include h

/-- **Both ends of a span have positions**, on one line and a length apart. -/
theorem exists_positions :
    ∃ p start stop, s.site? text = some p ∧
      (LineIndex.ofText text).position16? s.start = some start ∧
      (LineIndex.ofText text).position16? s.stop = some stop ∧
      start = ⟨p.line, p.column⟩ ∧ stop = ⟨p.line, p.column + p.length⟩ ∧ 0 < p.length ∧
      p.line ≤ Text.byteLength text ∧ p.column + p.length ≤ Text.byteLength text := by
  obtain ⟨before, inside, after, htext, hstart, hstop, hne, hnewline⟩ := h
  have hfirst := LineIndex.position16?_append before (inside ++ after)
  have hlast := LineIndex.position16?_append (before ++ inside) after
  -- A stretch has no newline in it, so both of its ends are on one line.
  have hbetween : (before ++ inside).count '\n' = before.count '\n' := by
    rw [List.count_append, List.count_eq_zero_of_not_mem hnewline, Nat.add_zero]
  rw [List.append_assoc, ← htext, Text.byteLength_append, hstart, hstop, hbetween,
    Text.lastLine_append_of_notMem before hnewline, Text.utf16Length_append] at hlast
  rw [← htext, hstart] at hfirst
  have hlen : Text.byteLength text =
      Text.byteLength before + (Text.byteLength inside + Text.byteLength after) := by
    rw [htext, Text.byteLength_append, Text.byteLength_append]
  refine ⟨_, _, _, site?_eq_some_iff.2 ⟨before, inside, after, htext, hstart, hstop, rfl⟩, hfirst,
    hlast, rfl, rfl, Text.utf16Length_pos hne, ?_, ?_⟩
  · have hcount : before.count '\n' ≤ before.length := List.count_le_length
    have hbytes := Text.length_le_byteLength before
    show before.count '\n' ≤ Text.byteLength text
    omega
  · have hcolumn := Text.utf16Length_lastLine_le before
    have hlength := Text.utf16Length_le_byteLength inside
    show Text.utf16Length (Text.lastLine before) + Text.utf16Length inside ≤ Text.byteLength text
    omega

/-- In a text whose offsets fit into words the place that is sent is the one in the text. -/
theorem place?_eq_site? (hsize : Text.byteLength text < 2 ^ 32) :
    s.place? (LineIndex.ofText text) = s.site? text := by
  have hword {n : Nat} (hn : n ≤ Text.byteLength text) : toWord n = n :=
    Nat.mod_eq_of_lt (Nat.lt_of_le_of_lt hn hsize)
  obtain ⟨p, start, stop, hsite, hstart, hstop, rfl, rfl, -, hline, hcolumn⟩ := exists_positions h
  obtain ⟨before, inside, after, -, -, -, hp⟩ := site?_eq_some_iff.1 hsite
  have hkind : s.kind = p.kind := by rw [hp]
  rw [place?, hstart, hstop, hsite]
  show some (Placed.mk s.kind (toWord p.line) (toWord p.column)
    (toWord (p.column + p.length - p.column))) = some p
  rw [Nat.add_sub_cancel_left, hword hline, hword (by omega), hword (by omega), hkind]

omit h in
/-- **Spans that follow each other have places in order.** -/
theorem before_of_stop_le {t : Span} {p q : Placed} (hs : Text.IsStretch text s.start s.stop)
    (hle : s.stop ≤ t.start) (hp : s.site? text = some p) (hq : t.site? text = some q) :
    p.Before q := by
  obtain ⟨before, inside, after, htext, hstart, hstop, hne, hnewline⟩ := hs
  have hsite : s.site? text = some ⟨s.kind, before.count '\n',
      Text.utf16Length (Text.lastLine before), Text.utf16Length inside⟩ :=
    site?_eq_some_iff.2 ⟨before, inside, after, htext, hstart, hstop, rfl⟩
  obtain rfl := Option.some.inj (hp.symm.trans hsite)
  obtain ⟨before', inside', after', htext', hstart', -, rfl⟩ := site?_eq_some_iff.1 hq
  have hboth : (before ++ inside) ++ after = before' ++ (inside' ++ after') := by
    rw [List.append_assoc, ← htext, htext']
  -- the next span starts behind this one and whatever stands in between
  obtain ⟨between, rfl, -⟩ := Text.exists_append_of_byteLength_le hboth (by
    rw [Text.byteLength_append]
    omega)
  have hcount : ((before ++ inside) ++ between).count '\n' =
      before.count '\n' + between.count '\n' := by
    rw [List.count_append, List.count_append, List.count_eq_zero_of_not_mem hnewline, Nat.add_zero]
  by_cases hline : '\n' ∈ between
  · -- a newline in between takes the next place to a line below
    left
    have hpos := List.count_pos_iff.2 hline
    show before.count '\n' < ((before ++ inside) ++ between).count '\n'
    omega
  · right
    constructor
    · show before.count '\n' = ((before ++ inside) ++ between).count '\n'
      rw [hcount, List.count_eq_zero_of_not_mem hline, Nat.add_zero]
    · show Text.utf16Length (Text.lastLine before) + Text.utf16Length inside ≤
        Text.utf16Length (Text.lastLine ((before ++ inside) ++ between))
      rw [Text.lastLine_append_of_notMem _ hline, Text.lastLine_append_of_notMem _ hnewline,
        Text.utf16Length_append, Text.utf16Length_append]
      exact Nat.le_add_right _ _

end Span

/-! ### Places in order -/

/-- The places that are found one by one are found together. -/
theorem mapM_eq_some_of_map_eq {spans : List Span} {f : Span → Option Placed} {places : List Placed}
    (h : spans.map f = places.map some) : spans.mapM f = some places := by
  induction spans generalizing places with
  | nil =>
    obtain rfl : places = [] := by simpa using h.symm
    rfl
  | cons s spans ih =>
    obtain ⟨p, more, rfl, hp, hmore⟩ := List.map_eq_cons_iff.1 h.symm
    rw [List.mapM_cons, ← hp, ih hmore.symm]
    rfl

/-- Each of the places is the place of one of the spans. -/
theorem exists_of_mem_sites {text : List Char} {spans : List Span} {places : List Placed}
    (h : spans.map (Span.site? text) = places.map some) {p : Placed} (hp : p ∈ places) :
    ∃ s ∈ spans, s.site? text = some p := by
  have hsite : some p ∈ spans.map (Span.site? text) := by
    rw [h]
    exact List.mem_map_of_mem hp
  exact List.mem_map.1 hsite

/-- Spans of a text that follow each other have places, which are in order. -/
theorem exists_sites {text : List Char} {spans : List Span}
    (hstretch : ∀ s ∈ spans, Text.IsStretch text s.start s.stop)
    (horder : spans.Pairwise fun s t ↦ s.stop ≤ t.start) :
    ∃ places : List Placed, spans.map (Span.site? text) = places.map some ∧
      places.Pairwise Placed.Before := by
  induction spans with
  | nil => exact ⟨[], rfl, List.Pairwise.nil⟩
  | cons s spans ih =>
    obtain ⟨hs, hmore⟩ := List.forall_mem_cons.1 hstretch
    obtain ⟨hfirst, hrest⟩ := List.pairwise_cons.1 horder
    obtain ⟨places, hplaces, hbefore⟩ := ih hmore hrest
    obtain ⟨p, -, -, hp, -⟩ := Span.exists_positions hs
    refine ⟨p :: places, by rw [List.map_cons, List.map_cons, hp, hplaces], ?_⟩
    refine List.pairwise_cons.2 ⟨fun q hq ↦ ?_, hbefore⟩
    obtain ⟨t, ht, hq⟩ := exists_of_mem_sites hplaces hq
    exact Span.before_of_stop_le hs (hfirst t ht) hp hq

namespace Relative

/-- No difference is cut off at zero when places that have lengths are written from there on. -/
def Exact : Nat → Nat → List Placed → Prop
  | _, _, [] => True
  | line, column, p :: more =>
    line ≤ p.line ∧ (p.line = line → column ≤ p.column) ∧ Exact p.line p.column more

/-- **Places in order are written exactly.** -/
theorem exact_of_pairwise {line column : Nat} {places : List Placed}
    (hhead : ∀ p ∈ places.head?, line ≤ p.line ∧ (p.line = line → column ≤ p.column))
    (horder : places.Pairwise Placed.Before) : Exact line column places := by
  induction places generalizing line column with
  | nil => trivial
  | cons p more ih =>
    obtain ⟨hfirst, hrest⟩ := List.pairwise_cons.1 horder
    obtain ⟨hline, hcolumn⟩ := hhead p rfl
    refine ⟨hline, hcolumn, ih (fun q hq ↦ ?_) hrest⟩
    rcases hfirst q (List.mem_of_mem_head? hq) with habove | ⟨hsame, hover⟩
    · exact ⟨Nat.le_of_lt habove, fun h ↦ absurd h (Nat.ne_of_gt habove)⟩
    · exact ⟨Nat.le_of_eq hsame, fun _ ↦ Nat.le_trans (Nat.le_add_right _ _) hover⟩

/-- **What is written exactly is read back.** -/
theorem decode_ofPlaced {line column : Nat} {places : List Placed}
    (hexact : Exact line column places) (hlength : ∀ p ∈ places, 0 < p.length) :
    decode line column (ofPlaced line column places) = places := by
  induction places generalizing line column with
  | nil => rfl
  | cons p more ih =>
    obtain ⟨hline, hcolumn, hrest⟩ := hexact
    obtain ⟨hpos, hmore⟩ := List.forall_mem_cons.1 hlength
    have hnextLine : line + (p.line - line) = p.line := by omega
    have hnextColumn : (if p.line - line = 0 then
        column + (if p.line - line = 0 then p.column - column else p.column)
        else if p.line - line = 0 then p.column - column else p.column) = p.column := by
      split
      · have := hcolumn (by omega)
        omega
      · rfl
    rw [ofPlaced, if_neg (Nat.ne_of_gt hpos), decode]
    simp only [hnextLine, hnextColumn, Kind.legend_getElem?_index, Option.getD_some, ih hrest hmore]

end Relative

/--
**An editor reads what the text has.** Unless the text has `2 ^ 32` bytes or more, its spans are
sent and read back as their places in the text, one for one and in order: with their kind, the
number of newlines in front, and column and length in UTF-16 units.

On the way each span stops on the line on which it starts, behind its start; no difference is cut
off at zero; and the places, which all have a length and fit into words, lie one behind the other.
-/
theorem decode_encode? {text : List Char} (hsize : Text.byteLength text < 2 ^ 32) :
    ∃ places items,
      (ofText text).mapM (Span.place? (LineIndex.ofText text)) = some places ∧
      Relative.encode? text (ofText text) = some items ∧
      Relative.decode 0 0 items = places ∧
      (ofText text).map (Span.site? text) = places.map some ∧
      (∀ s ∈ ofText text, ∃ start stop,
        (LineIndex.ofText text).position16? s.start = some start ∧
        (LineIndex.ofText text).position16? s.stop = some stop ∧
        start.line = stop.line ∧ start.column < stop.column) ∧
      Relative.Exact 0 0 places ∧
      (∀ p ∈ places, 0 < p.length ∧ p.line < 2 ^ 32 ∧ p.column + p.length < 2 ^ 32) ∧
      places.Pairwise Placed.Before := by
  have hstretch := isStretch_of_mem_ofText text
  obtain ⟨places, hsites, horder⟩ := exists_sites hstretch (pairwise_ofText text)
  have hplaced : (ofText text).mapM (Span.place? (LineIndex.ofText text)) = some places := by
    refine mapM_eq_some_of_map_eq (Eq.trans (List.map_congr_left fun s hs ↦ ?_) hsites)
    exact Span.place?_eq_site? (hstretch s hs) hsize
  have hbounds : ∀ p ∈ places, 0 < p.length ∧ p.line < 2 ^ 32 ∧ p.column + p.length < 2 ^ 32 := by
    intro p hp
    obtain ⟨s, hs, hp⟩ := exists_of_mem_sites hsites hp
    obtain ⟨q, start, stop, hq, -, -, -, -, hpos, hline, hcolumn⟩ :=
      Span.exists_positions (hstretch s hs)
    obtain rfl := Option.some.inj (hp.symm.trans hq)
    exact ⟨hpos, Nat.lt_of_le_of_lt hline hsize, Nat.lt_of_le_of_lt hcolumn hsize⟩
  -- Ordered places have no distance below zero, so no subtraction is cut off.
  have hexact : Relative.Exact 0 0 places :=
    Relative.exact_of_pairwise (fun p _ ↦ ⟨Nat.zero_le _, fun _ ↦ Nat.zero_le _⟩) horder
  refine ⟨places, Relative.ofPlaced 0 0 places, hplaced, ?_, ?_, hsites, ?_, hexact, hbounds,
    horder⟩
  · rw [Relative.encode?, hplaced]
    rfl
  · exact Relative.decode_ofPlaced hexact fun p hp ↦ (hbounds p hp).1
  · intro s hs
    obtain ⟨p, start, stop, -, hstart, hstop, rfl, rfl, hpos, -, -⟩ :=
      Span.exists_positions (hstretch s hs)
    exact ⟨_, _, hstart, hstop, rfl, Nat.lt_add_of_pos_right hpos⟩

/-- A number, a carriage return in front of the newline, and a comment of five UTF-16 units. -/
theorem decode_encode?_number_comment :
    Text.byteLength ['1', '\r', '\n', '/', '/', ' ', '😀'] < 2 ^ 32 ∧
    ∃ items,
      Relative.encode? ['1', '\r', '\n', '/', '/', ' ', '😀']
        (ofText ['1', '\r', '\n', '/', '/', ' ', '😀']) = some items ∧
      Relative.decode 0 0 items = [⟨.number, 0, 0, 1⟩, ⟨.comment, 1, 0, 5⟩] := by
  have hsize : Text.byteLength ['1', '\r', '\n', '/', '/', ' ', '😀'] < 2 ^ 32 := by decide
  have hplaces : (ofText ['1', '\r', '\n', '/', '/', ' ', '😀']).map
      (Span.site? ['1', '\r', '\n', '/', '/', ' ', '😀']) =
      [⟨.number, 0, 0, 1⟩, ⟨.comment, 1, 0, 5⟩].map some := by decide +kernel
  obtain ⟨places, items, -, hitems, hread, hsites, -⟩ := decode_encode? hsize
  rw [hplaces] at hsites
  rw [← (List.map_inj_right fun _ _ ↦ Option.some.inj).1 hsites] at hread
  exact ⟨hsize, items, hitems, hread⟩

end RonWorkbench.Highlight
