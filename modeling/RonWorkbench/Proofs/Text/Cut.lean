import Mathlib.Algebra.Ring.Nat
import Mathlib.Data.List.Basic
import RonWorkbench.Text.Utf8

/-!
# Cutting a text at its character boundaries

A byte offset is a character boundary of a text when it is the length of one of its beginnings.
Such an offset determines the beginning (`eq_of_append_eq_append`), the cut at it is the one into
that beginning and the remainder (`splitAtByte?_eq_some_iff`), and the text between two of them is
what stands between the two beginnings (`slice?_eq_some_iff`). Statements about byte offsets are
turned into statements about `a ++ b ++ c` by these lemmas once, and offsets do not occur in
proofs any further.
-/

namespace RonWorkbench.Text

theorem byteLength_pos {text : List Char} (h : text ≠ []) : 0 < byteLength text :=
  Nat.pos_of_ne_zero fun hzero ↦ h (byteLength_eq_zero_iff.1 hzero)

theorem length_le_byteLength (text : List Char) : text.length ≤ byteLength text := by
  induction text with
  | nil => simp
  | cons c text ih =>
    have hpos := c.utf8Size_pos
    rw [List.length_cons, byteLength_cons]
    omega

/-! ### Cuts -/

/-- A text can be split where a part of it ends. -/
@[simp]
theorem splitAtByte?_byteLength (a b : List Char) :
    splitAtByte? (byteLength a) (a ++ b) = some (a, b) := by
  induction a with
  | nil => rw [byteLength_nil, List.nil_append, splitAtByte?]
  | cons c a ih =>
    have hpos := c.utf8Size_pos
    obtain ⟨n, hn⟩ : ∃ n, c.utf8Size + byteLength a = n + 1 :=
      ⟨c.utf8Size + byteLength a - 1, by omega⟩
    rw [byteLength_cons, hn, List.cons_append, splitAtByte?, if_pos (by omega), ← hn,
      Nat.add_sub_cancel_left, ih, Option.map_some]

/-- Splitting loses nothing, and splits at the byte that was asked for. -/
theorem eq_append_of_splitAtByte? {n : Nat} {text a b : List Char}
    (h : splitAtByte? n text = some (a, b)) : text = a ++ b ∧ byteLength a = n := by
  induction n, text using splitAtByte?.induct generalizing a b with
  | case1 text =>
    obtain ⟨rfl, rfl⟩ := Prod.mk.inj (Option.some.inj ((splitAtByte?.eq_1 text).symm.trans h))
    simp
  | case2 n => simp [splitAtByte?] at h
  | case3 n c text hle ih =>
    rw [splitAtByte?, if_pos hle] at h
    obtain ⟨⟨a', b'⟩, hcut, hab⟩ := Option.map_eq_some_iff.1 h
    obtain ⟨rfl, rfl⟩ := Prod.mk.inj hab
    obtain ⟨rfl, hlen⟩ := ih hcut
    refine ⟨rfl, ?_⟩
    rw [byteLength_cons, hlen]
    omega
  | case4 n c text hle =>
    rw [splitAtByte?, if_neg hle] at h
    simp at h

/-- A cut at an offset is a beginning of that many bytes, and the remainder. -/
theorem splitAtByte?_eq_some_iff {n : Nat} {text a b : List Char} :
    splitAtByte? n text = some (a, b) ↔ text = a ++ b ∧ byteLength a = n := by
  refine ⟨eq_append_of_splitAtByte?, ?_⟩
  rintro ⟨rfl, rfl⟩
  exact splitAtByte?_byteLength a b

/-- **The byte length tells the beginnings of a text apart.** -/
theorem eq_of_append_eq_append {a b c d : List Char} (h : a ++ b = c ++ d)
    (hlen : byteLength a = byteLength c) : a = c ∧ b = d := by
  have hcut := splitAtByte?_byteLength a b
  rw [h, hlen, splitAtByte?_byteLength] at hcut
  obtain ⟨hca, hdb⟩ := Prod.mk.inj (Option.some.inj hcut)
  exact ⟨hca.symm, hdb.symm⟩

/-- Of two beginnings of a text, the one with fewer bytes is a beginning of the other. -/
theorem exists_append_of_byteLength_le {a b c d : List Char} (h : a ++ b = c ++ d)
    (hlen : byteLength a ≤ byteLength c) : ∃ m, c = a ++ m ∧ b = m ++ d := by
  rcases List.append_eq_append_iff.1 h with ⟨m, rfl, rfl⟩ | ⟨m, rfl, rfl⟩
  · exact ⟨m, rfl, rfl⟩
  · have hm : m = [] := by
      rw [byteLength_append] at hlen
      exact byteLength_eq_zero_iff.1 (by omega)
    subst hm
    exact ⟨[], by simp, by simp⟩

/-- The text between two offsets is what stands between the two beginnings that they are. -/
theorem slice?_eq_some_iff {start stop : Nat} {text inside : List Char} :
    slice? start stop text = some inside ↔
      ∃ before after, text = before ++ (inside ++ after) ∧ byteLength before = start ∧
        start + byteLength inside = stop := by
  constructor
  · intro h
    unfold slice? at h
    split at h
    · next hle =>
      obtain ⟨⟨before, rest⟩, hbefore, h⟩ := Option.bind_eq_some_iff.1 h
      obtain ⟨⟨w, after⟩, hinside, h⟩ := Option.bind_eq_some_iff.1 h
      obtain rfl := Option.some.inj h
      obtain ⟨rfl, rfl⟩ := eq_append_of_splitAtByte? hbefore
      obtain ⟨rfl, hlen⟩ := eq_append_of_splitAtByte? hinside
      exact ⟨before, after, rfl, rfl, by omega⟩
    · simp at h
  · rintro ⟨before, after, rfl, rfl, rfl⟩
    simp [slice?]

/-- A part of a text is cut out of it by its bytes. -/
@[simp]
theorem slice?_append (before inside after : List Char) :
    slice? (byteLength before) (byteLength before + byteLength inside)
      (before ++ (inside ++ after)) = some inside :=
  slice?_eq_some_iff.2 ⟨before, after, rfl, rfl, rfl⟩

/-! ### Lengths in UTF-16 units -/

@[simp]
theorem utf16Length_append (a b : List Char) :
    utf16Length (a ++ b) = utf16Length a + utf16Length b := by
  induction a with
  | nil => simp
  | cons c a ih => simp only [List.cons_append, utf16Length_cons, ih, Nat.add_assoc]

theorem units16_pos (c : Char) : 0 < units16 c := by
  unfold units16
  split <;> omega

theorem utf16Length_pos {text : List Char} (h : text ≠ []) : 0 < utf16Length text := by
  cases text with
  | nil => exact absurd rfl h
  | cons c text => exact Nat.add_pos_left (units16_pos c) _

/-- A character takes no more UTF-16 units than bytes: two units only where it takes four bytes. -/
theorem units16_le_utf8Size (c : Char) : units16 c ≤ c.utf8Size := by
  have hpos := c.utf8Size_pos
  unfold units16
  split
  · omega
  · next hbig =>
    have hfour : c.utf8Size = 4 :=
      Char.utf8Size_eq_four_iff.2 (UInt32.lt_iff_toNat_lt.2 (Nat.lt_of_not_le fun h ↦
        hbig (Nat.lt_succ_of_le h)))
    omega

theorem utf16Length_le_byteLength (text : List Char) : utf16Length text ≤ byteLength text := by
  induction text with
  | nil => simp
  | cons c text ih =>
    have hc := units16_le_utf8Size c
    simp only [utf16Length_cons, byteLength_cons]
    omega

end RonWorkbench.Text
