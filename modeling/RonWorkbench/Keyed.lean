/-!
# Values under keys

An association of keys with values, as a list in which the first pair of a key counts. The view is
`Keyed.get?`; setting and erasing a key are characterised by what they do to it (`get?_set`,
`get?_erase`), so nothing else needs to know of the list.
-/

namespace RonWorkbench

/-- Keys with their values. -/
structure Keyed (κ α : Type) where
  entries : List (κ × α)
  deriving Repr, DecidableEq

namespace Keyed

variable {κ α : Type} [DecidableEq κ]

/-- No keys at all. -/
def empty : Keyed κ α := ⟨[]⟩

/-- The value of a key. -/
def get? (table : Keyed κ α) (key : κ) : Option α :=
  (table.entries.find? fun e ↦ e.1 == key).map Prod.snd

/-- Drop the value of a key. -/
def erase (table : Keyed κ α) (key : κ) : Keyed κ α :=
  ⟨table.entries.filter fun e ↦ e.1 != key⟩

/-- Give a key a value, in place of any that it had. -/
def set (table : Keyed κ α) (key : κ) (value : α) : Keyed κ α :=
  ⟨(key, value) :: (table.erase key).entries⟩

@[simp]
theorem get?_empty (key : κ) : (empty : Keyed κ α).get? key = none :=
  rfl

theorem get?_erase (table : Keyed κ α) (key other : κ) :
    (table.erase key).get? other = if other = key then none else table.get? other := by
  simp only [get?, erase, List.find?_filter]
  split
  · next h =>
    subst h
    rw [List.find?_eq_none.2]
    · rfl
    · intro e _
      by_cases he : e.1 = other <;> simp [he]
  · next h =>
    congr 2
    funext e
    by_cases he : e.1 = other
    · simp [he, h]
    · simp [he]

theorem get?_set (table : Keyed κ α) (key other : κ) (value : α) :
    (table.set key value).get? other = if other = key then some value else table.get? other := by
  by_cases h : other = key
  · subst h
    simp [get?, set]
  · have hne : ¬ key = other := fun he ↦ h he.symm
    have := get?_erase table key other
    simp only [h, if_false] at this ⊢
    rw [← this]
    simp [get?, set, hne]

/-- Of two values given to a key the second counts. -/
theorem set_set (table : Keyed κ α) (key : κ) (a b : α) :
    (table.set key a).set key b = table.set key b := by
  simp [set, erase]

end Keyed

end RonWorkbench
