import RonWorkbench.Proofs.Text.Encoding
import RonWorkbench.Proofs.Text.LineIndex

/-!
# Positions of all offsets

A position can be asked for at every byte offset, also inside a character. What an offset has in
front of it is then not a text, but there is a last character boundary at or before it, and nothing
that matters to a line stands between the two (`Text.FallsBehind`). So the line of an offset is the
number of newlines among the bytes in front of it (`LineIndex.line_position`), and it is what a
search for the offset in the starts of the lines comes to, whether the search finds the offset or
tells where it is to be put in (`LineIndex.Finds.eq_or`).

The column in UTF-16 units is there for character boundaries alone
(`LineIndex.position16?_eq_some_iff`). In both units positions are in the order of the offsets.
-/

namespace RonWorkbench

/-- The order of positions in a text: by lines, and in a line by columns. -/
def Position.Precedes (p q : Position) : Prop :=
  p.line < q.line ∨ p.line = q.line ∧ p.column < q.column

instance (p q : Position) : Decidable (p.Precedes q) :=
  inferInstanceAs (Decidable (_ ∨ _))

theorem Position.Precedes.ne {p q : Position} (h : p.Precedes q) : p ≠ q := by
  rintro rfl
  rcases h with h | ⟨-, h⟩ <;> exact Nat.lt_irrefl _ h

namespace Text

/-- The offset is the boundary between the texts, or falls into the character behind it. -/
structure FallsBehind (before after : List Char) (offset : Nat) : Prop where
  le_offset : byteLength before ≤ offset
  lt_next : ∀ c ∈ after.head?, offset < byteLength before + c.utf8Size
  le_end : offset ≤ byteLength (before ++ after)

/-- Each offset in a text falls behind some boundary. -/
theorem exists_fallsBehind {text : List Char} {offset : Nat} (h : offset ≤ byteLength text) :
    ∃ before after, text = before ++ after ∧ FallsBehind before after offset := by
  induction text generalizing offset with
  | nil => exact ⟨[], [], rfl, Nat.zero_le _, by simp, h⟩
  | cons c text ih =>
    by_cases hc : offset < c.utf8Size
    · exact ⟨[], c :: text, rfl, Nat.zero_le _, by simpa using hc, h⟩
    · rw [byteLength_cons] at h
      have hmore : offset - c.utf8Size ≤ byteLength text := by omega
      obtain ⟨before, after, rfl, hle, hlt, hend⟩ := ih hmore
      refine ⟨c :: before, after, rfl, ?_, fun d hd ↦ ?_, ?_⟩
      · rw [byteLength_cons]
        omega
      · have hnext := hlt d hd
        rw [byteLength_cons]
        omega
      · rw [List.cons_append, byteLength_cons]
        omega

namespace FallsBehind

variable {before after : List Char} {offset : Nat}

/-- What follows is not begun by a newline, unless the offset is the boundary itself. -/
theorem eq_of_newline {more : List Char} (h : FallsBehind before ('\n' :: more) offset) :
    offset = byteLength before := by
  have hle := h.le_offset
  have hlt : offset < byteLength before + 1 := h.lt_next '\n' rfl
  omega

/-- **The newlines in front of an offset are those in front of the boundary.** -/
theorem count_take_encode (h : FallsBehind before after offset) :
    ((encode (before ++ after)).take offset).count 10 = before.count '\n' := by
  have hpart : ((encode after).take (offset - byteLength before)).count 10 = 0 := by
    cases after with
    | nil => rw [encode_nil, List.take_nil, List.count_nil]
    | cons c after =>
      by_cases hc : c = '\n'
      · subst hc
        rw [h.eq_of_newline, Nat.sub_self, List.take_zero, List.count_nil]
      · -- a part of one character, in whose bytes there is no newline
        have hlt : offset < byteLength before + c.utf8Size := h.lt_next c rfl
        have hsize : offset - byteLength before ≤ (String.utf8EncodeChar c).length := by
          rw [String.length_utf8EncodeChar]
          omega
        have hnone : (String.utf8EncodeChar c).count 10 = 0 := by
          rw [count_utf8EncodeChar, if_neg hc]
        rw [encode_cons, List.take_append_of_le_length hsize]
        exact Nat.le_zero.1 (((List.take_sublist _ _).count_le 10).trans hnone.le)
  have hwhole : (encode before).take offset = encode before :=
    List.take_of_length_le ((length_encode before).trans_le h.le_offset)
  rw [encode_append, List.take_append, hwhole, length_encode, List.count_append, count_encode,
    hpart, Nat.add_zero]

end FallsBehind

end Text

namespace LineIndex

open Text

/-! ### Offsets and the starts of lines -/

section FallsBehind

variable {before after : List Char} {offset : Nat}

/-- Behind the line of the boundary, lines start past the offset. -/
theorem lt_getD_starts_of_fallsBehind (h : FallsBehind before after offset) {i : Nat}
    (hi : before.count '\n' < i) (hsize : i < (ofText (before ++ after)).starts.size) :
    offset < (ofText (before ++ after)).starts.getD i 0 := by
  cases after with
  | nil =>
    have hend := h.le_end
    rw [List.append_nil] at hend
    exact hend.trans_lt (lt_getD_starts before [] hi hsize)
  | cons c after =>
    by_cases hc : c = '\n'
    · subst hc
      rw [h.eq_of_newline]
      exact lt_getD_starts before ('\n' :: after) hi hsize
    · -- the whole character has no newline, so its end is on the same line
      have hcount : (before ++ [c]).count '\n' = before.count '\n' := by
        simp [List.count_append, hc]
      have hsplit : before ++ c :: after = (before ++ [c]) ++ after := by simp
      have hnext : offset < byteLength before + c.utf8Size := h.lt_next c rfl
      rw [hsplit] at hsize ⊢
      have hpast := lt_getD_starts (before ++ [c]) after (hcount ▸ hi) hsize
      rw [byteLength_append, byteLength_cons, byteLength_nil] at hpast
      omega

/-- An offset between two characters is not moved. -/
theorem clamp_of_fallsBehind (h : FallsBehind before after offset) :
    (ofText (before ++ after)).clamp offset = offset :=
  Nat.min_eq_left h.le_end

/-- **The position of an offset is told by what stands in front of it.** -/
theorem position_of_fallsBehind (h : FallsBehind before after offset) :
    (ofText (before ++ after)).position offset =
      ⟨before.count '\n', byteLength (lastLine before) + (offset - byteLength before)⟩ := by
  have hsize := size_starts before after
  have hline : lastStart (ofText (before ++ after)).starts offset 0
      (ofText (before ++ after)).starts.size = before.count '\n' :=
    lastStart_eq (Nat.zero_le _) (by omega)
      (fun i hi ↦ (getD_starts_le before after hi).trans h.le_offset)
      fun i hi hsize ↦ lt_getD_starts_of_fallsBehind h hi hsize
  have hcolumn := getD_starts_count before after
  have hle := h.le_offset
  rw [position, clamp_of_fallsBehind h, hline]
  congr 1
  omega

end FallsBehind

section Source

variable (source : List Char)

theorem clamp_le (offset : Nat) : (ofText source).clamp offset ≤ byteLength source :=
  Nat.min_le_right _ _

/-- An offset in the text stays where it is, also inside a character. -/
theorem clamp_of_le {offset : Nat} (h : offset ≤ byteLength source) :
    (ofText source).clamp offset = offset :=
  Nat.min_eq_left h

/-- An offset has the position of its clamped offset. -/
theorem position_clamp (offset : Nat) :
    (ofText source).position ((ofText source).clamp offset) = (ofText source).position offset := by
  have hclamp : (ofText source).clamp ((ofText source).clamp offset) =
      (ofText source).clamp offset := Nat.min_eq_left (clamp_le source offset)
  rw [position, position, hclamp]

/-- **The line of an offset is the number of newlines in front of it.** -/
theorem line_position (offset : Nat) :
    ((ofText source).position offset).line =
      ((encode source).take ((ofText source).clamp offset)).count 10 := by
  obtain ⟨before, after, hsource, h⟩ := exists_fallsBehind (clamp_le source offset)
  rw [← position_clamp]
  generalize (ofText source).clamp offset = n at h ⊢
  subst hsource
  rw [position_of_fallsBehind h, h.count_take_encode]

/-- **Its line starts at or before the offset, and the column goes from there to it.** -/
theorem exists_lineStart? (offset : Nat) :
    ∃ start, (ofText source).lineStart? ((ofText source).position offset).line = some start ∧
      start + ((ofText source).position offset).column = (ofText source).clamp offset := by
  obtain ⟨before, after, hsource, h⟩ := exists_fallsBehind (clamp_le source offset)
  rw [← position_clamp]
  generalize (ofText source).clamp offset = n at h ⊢
  subst hsource
  have hsize := size_starts before after
  have hstart := getD_starts_count before after
  have hle := h.le_offset
  rw [position_of_fallsBehind h]
  refine ⟨(ofText (before ++ after)).starts.getD (before.count '\n') 0, ?_, ?_⟩
  · have hlt : before.count '\n' < (ofText (before ++ after)).starts.size := by omega
    rw [lineStart?, Array.getD_eq_getD_getElem?, Array.getElem?_eq_getElem hlt, Option.getD_some]
  · dsimp only
    omega

/-- The starts up to the line of an offset are those at or before the offset. -/
theorem getD_starts_le_iff (offset : Nat) {i : Nat} (hi : i < (ofText source).starts.size) :
    (ofText source).starts.getD i 0 ≤ (ofText source).clamp offset ↔
      i ≤ ((ofText source).position offset).line := by
  obtain ⟨before, after, hsource, h⟩ := exists_fallsBehind (clamp_le source offset)
  rw [← position_clamp]
  generalize (ofText source).clamp offset = n at h ⊢
  subst hsource
  rw [position_of_fallsBehind h]
  constructor
  · intro hle
    by_contra hlt
    have hpast := lt_getD_starts_of_fallsBehind h (Nat.lt_of_not_le hlt) hi
    omega
  · exact fun hle ↦ (getD_starts_le before after hle).trans h.le_offset

/-- The line of a position is one of the text's. -/
theorem line_lt_size (offset : Nat) :
    ((ofText source).position offset).line < (ofText source).starts.size := by
  obtain ⟨start, hstart, -⟩ := exists_lineStart? source offset
  exact (Array.getElem?_eq_some_iff.1 hstart).1

/-- **A line's start and the column in it add up to the offset.** -/
theorem getD_starts_add_column (offset : Nat) :
    (ofText source).starts.getD ((ofText source).position offset).line 0 +
        ((ofText source).position offset).column =
      (ofText source).clamp offset := by
  obtain ⟨start, hstart, hcolumn⟩ := exists_lineStart? source offset
  rw [Array.getD_eq_getD_getElem?, ← lineStart?, hstart, Option.getD_some, hcolumn]

/-! ### Searching the starts -/

/--
What a search for a number in an increasing array may come to: a place where the number is, or the
place where it is to be put in if it is nowhere.
-/
inductive Finds (entries : Array Nat) (x : Nat) : Except Nat Nat → Prop
  | found {i : Nat} (hi : i < entries.size) (heq : entries.getD i 0 = x) : Finds entries x (.ok i)
  | missing {i : Nat} (hi : i ≤ entries.size) (hbefore : ∀ j < i, entries.getD j 0 < x)
      (hbehind : ∀ j, i ≤ j → j < entries.size → x < entries.getD j 0) :
      Finds entries x (.error i)

theorem getD_starts_lt {i j : Nat} (hij : i < j) (hj : j < (ofText source).starts.size) :
    (ofText source).starts.getD i 0 < (ofText source).starts.getD j 0 := by
  have hsize : j < (0 :: startsAfterNewlines 0 source).length := by simpa [ofText] using hj
  rw [getD_starts, getD_starts, List.getElem?_eq_getElem hsize,
    List.getElem?_eq_getElem (hij.trans hsize)]
  exact List.pairwise_iff_getElem.1 (pairwise_startsAfterNewlines 0 source) _ _ _ hsize hij

/--
**A search for the offset finds its line, or tells the place behind that**: it finds the line if
the offset is where the line starts.
-/
theorem finds_iff {offset : Nat} {result : Except Nat Nat} :
    Finds (ofText source).starts ((ofText source).clamp offset) result ↔
      result =
        if ((ofText source).position offset).column = 0 then
          .ok ((ofText source).position offset).line
        else
          .error (((ofText source).position offset).line + 1) := by
  have hline := line_lt_size source offset
  have hcolumn := getD_starts_add_column source offset
  have hle {i : Nat} (hi : i < (ofText source).starts.size) := getD_starts_le_iff source offset hi
  constructor
  · intro h
    cases h with
    | @found i hi heq =>
      -- a later line does not start at or before the offset at which this one starts
      have hge : ((ofText source).position offset).line ≤ i := by
        by_contra hlt
        have hpast := getD_starts_lt source (Nat.lt_of_not_le hlt) hline
        omega
      obtain rfl := Nat.le_antisymm ((hle hi).1 heq.le) hge
      rw [if_pos (by omega)]
    | @missing i hi hbefore hbehind =>
      have hlt : ((ofText source).position offset).line < i := by
        by_contra hge
        have hpast := hbehind _ (Nat.le_of_not_lt hge) hline
        omega
      have hnext : i ≤ ((ofText source).position offset).line + 1 := by
        by_contra hgt
        have hmore := hbefore (((ofText source).position offset).line + 1) (by omega)
        have hless := (hle (by omega)).1 hmore.le
        omega
      obtain rfl := Nat.le_antisymm hnext hlt
      have hstart := hbefore _ hlt
      rw [if_neg (by omega)]
  · rintro rfl
    split
    · next hzero => exact .found hline (by omega)
    · next hne =>
      refine .missing hline (fun j hj ↦ ?_) fun j hj hsize ↦ ?_
      · rcases (Nat.le_of_lt_succ hj).lt_or_eq with hj | rfl
        · have hearlier := getD_starts_lt source hj hline
          omega
        · omega
      · by_contra hge
        have hless := (hle hsize).1 (Nat.le_of_not_lt hge)
        omega

/-! ### Columns in UTF-16 units -/

/-- **An offset has a column in UTF-16 units if it is a character boundary**, and not otherwise. -/
theorem position16?_eq_some_iff {offset : Nat} {p : Position} :
    (ofText source).position16? offset = some p ↔
      ∃ before after, source = before ++ after ∧
        byteLength before = (ofText source).clamp offset ∧
        p = ⟨before.count '\n', utf16Length (lastLine before)⟩ := by
  have hclamp : (ofText source).position16? offset =
      (ofText source).position16? ((ofText source).clamp offset) := by
    rw [position16?, position16?, position_clamp]
  -- Where a character starts the position is known; the other direction finds where it starts.
  have hboundary {before after : List Char} (hsource : source = before ++ after)
      (hbefore : byteLength before = (ofText source).clamp offset) :
      (ofText source).position16? offset =
        some ⟨before.count '\n', utf16Length (lastLine before)⟩ := by
    rw [hclamp, ← hbefore, hsource, position16?_append]
  constructor
  · intro h
    obtain ⟨inside, hslice, -⟩ := Option.bind_eq_some_iff.1 (h : Option.bind _ _ = _)
    obtain ⟨lines, after, hsource, hlines, hinside⟩ := slice?_eq_some_iff.1 hslice
    have hsplit : source = (lines ++ inside) ++ after := by
      rw [List.append_assoc]
      exact hsource
    have hbefore : byteLength (lines ++ inside) = (ofText source).clamp offset := by
      rw [byteLength_append, hlines, hinside, getD_starts_add_column]
    refine ⟨lines ++ inside, after, hsplit, hbefore, ?_⟩
    exact Option.some.inj (h.symm.trans (hboundary hsplit hbefore))
  · rintro ⟨before, after, hsource, hbefore, rfl⟩
    exact hboundary hsource hbefore

/-! ### The order of positions -/

section Order

variable {a b : Nat} (hlt : a < b) (hend : b ≤ byteLength source)

include hlt hend

/-- **Positions are in the order of the offsets**, also inside characters. -/
theorem position_precedes :
    ((ofText source).position a).Precedes ((ofText source).position b) := by
  have ha := getD_starts_add_column source a
  have hb := getD_starts_add_column source b
  rw [clamp_of_le source (hlt.le.trans hend)] at ha
  rw [clamp_of_le source hend] at hb
  have hle : ((ofText source).position a).line ≤ ((ofText source).position b).line := by
    rw [line_position, line_position, clamp_of_le source (hlt.le.trans hend),
      clamp_of_le source hend]
    exact (List.take_sublist_take_left hlt.le).count_le 10
  rcases hle.lt_or_eq with hline | hline
  · exact .inl hline
  · -- on one line the columns count from the same start
    rw [hline] at ha
    exact .inr ⟨hline, by omega⟩

/-- **In UTF-16 units, too, positions are in the order of the offsets.** -/
theorem position16?_precedes {p q : Position} (hp : (ofText source).position16? a = some p)
    (hq : (ofText source).position16? b = some q) : p.Precedes q := by
  obtain ⟨front, rest, hsource, ha, rfl⟩ := (position16?_eq_some_iff source).1 hp
  obtain ⟨before, after, hsource', hb, rfl⟩ := (position16?_eq_some_iff source).1 hq
  rw [clamp_of_le source (hlt.le.trans hend)] at ha
  rw [clamp_of_le source hend] at hb
  obtain ⟨m, rfl, -⟩ := exists_append_of_byteLength_le (hsource.symm.trans hsource') (by omega)
  by_cases hnewline : '\n' ∈ m
  · left
    rw [List.count_append]
    exact Nat.lt_add_of_pos_right (List.count_pos_iff.2 hnewline)
  · -- without a newline in between the later column counts what is in between, too
    have hm : m ≠ [] := by
      rintro rfl
      rw [List.append_nil] at hb
      omega
    right
    rw [List.count_append, List.count_eq_zero.2 hnewline, lastLine_append_of_notMem _ hnewline,
      utf16Length_append]
    exact ⟨rfl, Nat.lt_add_of_pos_right (utf16Length_pos hm)⟩

end Order

/-- No two character boundaries have the same position. -/
theorem eq_of_position16? {a b : Nat} (ha : a ≤ byteLength source) (hb : b ≤ byteLength source)
    {p : Position} (hp : (ofText source).position16? a = some p)
    (hq : (ofText source).position16? b = some p) : a = b := by
  rcases Nat.lt_trichotomy a b with hlt | heq | hlt
  · exact absurd rfl (position16?_precedes source hlt hb hp hq).ne
  · exact heq
  · exact absurd rfl (position16?_precedes source hlt ha hq hp).ne

/-- From the end on there is only the end. -/
theorem position16?_of_le {offset : Nat} (h : byteLength source ≤ offset) :
    (ofText source).position16? offset = (ofText source).end16? := by
  have hclamp : (ofText source).clamp offset = (ofText source).clamp (byteLength source) :=
    (Nat.min_eq_right h).trans (Nat.min_self _).symm
  rw [end16?, position16?, position16?, ← position_clamp, hclamp, position_clamp]
  rfl

/-- The end of a text is behind its last newline, at the length of the last line. -/
theorem end16?_eq :
    (ofText source).end16? = some ⟨source.count '\n', utf16Length (lastLine source)⟩ :=
  (position16?_eq_some_iff source).2
    ⟨source, [], (List.append_nil source).symm, (clamp_of_le source le_rfl).symm, rfl⟩

/--
**Positions are read off the line index and lead back to it.** The first line starts at 0. The line
of an offset, which is cut off at the end of the text, is the number of newlines in front of it; a
search of the starts for the offset gives that line, or the place behind it, which is never 0; and
the line's start and the column add up to the offset. Positions in bytes are in the order of the
offsets.

A position in UTF-16 units is there exactly for character boundaries, on the same line and with the
length of what the line has in front as its column; these positions, too, are in the order of the
offsets, so that no two boundaries have the same; and from the end on all offsets have the position
of the end.
-/
theorem position_inverts_starts :
    (ofText source).lineStart? 0 = some 0 ∧
    (∀ offset,
      ((ofText source).position offset).line =
        ((encode source).take ((ofText source).clamp offset)).count 10 ∧
      (∀ result, Finds (ofText source).starts ((ofText source).clamp offset) result ↔
        result =
          if ((ofText source).position offset).column = 0 then
            .ok ((ofText source).position offset).line
          else
            .error (((ofText source).position offset).line + 1)) ∧
      ∃ start, (ofText source).lineStart? ((ofText source).position offset).line = some start ∧
        start + ((ofText source).position offset).column = (ofText source).clamp offset) ∧
    (∀ a b, a < b → b ≤ byteLength source →
      ((ofText source).position a).Precedes ((ofText source).position b)) ∧
    (∀ offset p, (ofText source).position16? offset = some p ↔
      ∃ before after, source = before ++ after ∧
        byteLength before = (ofText source).clamp offset ∧
        p = ⟨before.count '\n', utf16Length (lastLine before)⟩) ∧
    (∀ offset p, (ofText source).position16? offset = some p →
      p.line = ((ofText source).position offset).line) ∧
    (∀ a b p q, a < b → b ≤ byteLength source → (ofText source).position16? a = some p →
      (ofText source).position16? b = some q → p.Precedes q) ∧
    (∀ a b p, a ≤ byteLength source → b ≤ byteLength source →
      (ofText source).position16? a = some p → (ofText source).position16? b = some p →
      a = b) ∧
    ∀ offset, byteLength source ≤ offset →
      (ofText source).position16? offset = (ofText source).end16? ∧
      (ofText source).end16? = some ⟨source.count '\n', utf16Length (lastLine source)⟩ := by
  refine ⟨rfl, fun offset ↦ ⟨line_position source offset, fun result ↦ finds_iff source,
    exists_lineStart? source offset⟩, fun a b ↦ position_precedes source,
    fun offset p ↦ position16?_eq_some_iff source, fun offset p h ↦ ?_,
    fun a b p q hlt hend ↦ position16?_precedes source hlt hend,
    fun a b p ha hb ↦ eq_of_position16? source ha hb,
    fun offset h ↦ ⟨position16?_of_le source h, end16?_eq source⟩⟩
  obtain ⟨inside, -, hp⟩ := Option.bind_eq_some_iff.1 (h : Option.bind _ _ = _)
  rw [← Option.some.inj hp]

end Source

end LineIndex

end RonWorkbench
