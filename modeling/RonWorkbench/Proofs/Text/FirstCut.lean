import Mathlib.Data.List.Basic

/-!
# The first cut of a text

A cut parts a text into what stands before it and what stands behind it. A property of cuts holds of
a *first* cut and of none to the left of it (`Text.IsFirstCut`); a text has one first cut at most
(`Text.IsFirstCut.unique`). Where a text is read from the left, the first cut of the whole is that
of what is left, once the cuts in what was read are out of the question (`Text.IsFirstCut.append`).
-/

namespace RonWorkbench.Text

/-- Of the cuts of the text, this is the first one with the property. -/
def IsFirstCut (P : List Char → List Char → Prop) (before behind : List Char) : Prop :=
  P before behind ∧
    ∀ i < before.length, ¬P (before.take i) (before.drop i ++ behind)

/-- No cut of the text has the property. -/
def HasNoCut (P : List Char → List Char → Prop) (text : List Char) : Prop :=
  ∀ i ≤ text.length, ¬P (text.take i) (text.drop i)

section Decide

variable (P : List Char → List Char → Prop) [∀ before behind, Decidable (P before behind)]

instance (before behind : List Char) : Decidable (IsFirstCut P before behind) :=
  inferInstanceAs (Decidable (_ ∧ ∀ i < _, _))

instance (text : List Char) : Decidable (HasNoCut P text) :=
  inferInstanceAs (Decidable (∀ i ≤ _, _))

end Decide

variable {P : List Char → List Char → Prop}

/-- A first cut is a cut with none in front of it. -/
theorem isFirstCut_iff {before behind : List Char} :
    IsFirstCut P before behind ↔
      P before behind ∧ ∀ a b, before = a ++ b → b ≠ [] → ¬P a (b ++ behind) := by
  refine and_congr_right fun _ ↦ ⟨?_, ?_⟩
  · rintro h a b rfl hb
    have hlt : a.length < (a ++ b).length := by
      rw [List.length_append]
      exact Nat.lt_add_of_pos_right (List.length_pos_iff.2 hb)
    have hcut := h a.length hlt
    rwa [List.take_left, List.drop_left] at hcut
  · intro h i hi
    exact h _ _ (List.take_append_drop i before).symm (by simpa using hi)

/-- A text has no cut if there is none wherever it is parted. -/
theorem hasNoCut_iff {text : List Char} :
    HasNoCut P text ↔ ∀ a b, text = a ++ b → ¬P a b := by
  constructor
  · rintro h a b rfl
    have hcut := h a.length (by simp)
    rwa [List.take_left, List.drop_left] at hcut
  · intro h i _
    exact h _ _ (List.take_append_drop i text).symm

/-- **A text has one first cut at most.** -/
theorem IsFirstCut.unique {a b c d : List Char} (h : IsFirstCut P a b) (h' : IsFirstCut P c d)
    (htext : a ++ b = c ++ d) : a = c ∧ b = d := by
  obtain ⟨hab, hfirst⟩ := isFirstCut_iff.1 h
  obtain ⟨hcd, hfirst'⟩ := isFirstCut_iff.1 h'
  rcases List.append_eq_append_iff.1 htext with ⟨m, rfl, rfl⟩ | ⟨m, rfl, rfl⟩
  · by_cases hm : m = []
    · simp [hm]
    · exact absurd hab (hfirst' a m rfl hm)
  · by_cases hm : m = []
    · simp [hm]
    · exact absurd hcd (hfirst c m rfl hm)

/-- Where there is no cut there is no first one. -/
theorem HasNoCut.not_isFirstCut {a b : List Char} (h : HasNoCut P (a ++ b)) :
    ¬IsFirstCut P a b :=
  fun hfirst ↦ hasNoCut_iff.1 h a b rfl hfirst.1

theorem hasNoCut_nil : HasNoCut P [] ↔ ¬P [] [] := by
  simp [HasNoCut]

theorem isFirstCut_nil {behind : List Char} : IsFirstCut P [] behind ↔ P [] behind := by
  simp [IsFirstCut]

/-! ### Reading from the left -/

section Append

variable {w : List Char}

/-- Where no cut lies in the first of two texts, a cut of both is one of the second. -/
theorem exists_eq_append_of_cut {rest : List Char}
    (hw : ∀ a b, w = a ++ b → b ≠ [] → ¬P a (b ++ rest)) {a b : List Char}
    (hcut : w ++ rest = a ++ b) (h : P a b) : ∃ c, a = w ++ c ∧ rest = c ++ b := by
  rcases List.append_eq_append_iff.1 hcut with ⟨c, rfl, hc⟩ | ⟨c, hwc, rfl⟩
  · exact ⟨c, rfl, hc⟩
  · by_cases hne : c = []
    · subst hne
      exact ⟨[], by simpa using hwc.symm, rfl⟩
    · exact absurd h (hw a c hwc hne)

/-- **Behind a text that no cut lies in, the first cut is that of what is left.** -/
theorem IsFirstCut.append {before behind : List Char}
    (hw : ∀ a b, w = a ++ b → b ≠ [] → ¬P a (b ++ (before ++ behind)))
    (h : IsFirstCut (fun x ↦ P (w ++ x)) before behind) : IsFirstCut P (w ++ before) behind := by
  obtain ⟨hcut, hfirst⟩ := isFirstCut_iff.1 h
  refine isFirstCut_iff.2 ⟨hcut, fun a b hab hb ha ↦ ?_⟩
  have hsplit : w ++ (before ++ behind) = a ++ (b ++ behind) := by
    rw [← List.append_assoc, hab, List.append_assoc]
  obtain ⟨c, rfl, hc⟩ := exists_eq_append_of_cut hw hsplit ha
  have hc : before = c ++ b := List.append_cancel_right (by rw [hc, List.append_assoc])
  exact hfirst c b hc hb ha

/-- A text has no cut if there is none in its beginning and none behind it. -/
theorem HasNoCut.append {rest : List Char}
    (hw : ∀ a b, w = a ++ b → b ≠ [] → ¬P a (b ++ rest))
    (h : HasNoCut (fun x ↦ P (w ++ x)) rest) : HasNoCut P (w ++ rest) := by
  refine hasNoCut_iff.2 fun a b hab ha ↦ ?_
  obtain ⟨c, rfl, hc⟩ := exists_eq_append_of_cut hw hab ha
  exact hasNoCut_iff.1 h c b hc ha

end Append

end RonWorkbench.Text
