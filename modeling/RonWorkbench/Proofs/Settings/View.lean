import Mathlib.Data.List.Forall2
import Mathlib.Tactic.SplitIfs
import RonWorkbench.Settings.Typed

/-!
# Layered values without an order

The members of a table stand in some order, but nothing that is read of the table depends on it.
What can be seen of a value without the order is its view (`Value.view`): a table shows how many
members it has and which value is under which name. Putting a value under a name shows through the
views (`Value.view_setMember`), and of values of one view the same settings are read
(`respects_asConfiguration`).
-/

namespace RonWorkbench.Settings

/-! ### Members -/

/-- The first member with a name is the one that counts. -/
theorem Value.lookup_cons_eq_ite (name other : String) (v : Value)
    (members : List (String × Value)) :
    ((name, v) :: members).lookup other =
      if other = name then some v else members.lookup other := by
  by_cases h : other = name
  · simp [h]
  · rw [List.lookup_cons, beq_eq_false_iff_ne.2 h, if_neg h]

/-- A member takes the place of the one with its name, and no other is touched. -/
theorem Value.lookup_putMember (name other : String) (v : Value)
    (members : List (String × Value)) :
    (putMember name v members).lookup other =
      if other = name then some v else members.lookup other := by
  induction members with
  | nil => rw [putMember, lookup_cons_eq_ite]
  | cons m members ih =>
    obtain ⟨first, old⟩ := m
    by_cases hfirst : first = name
    · rw [putMember, if_pos hfirst, lookup_cons_eq_ite, lookup_cons_eq_ite, hfirst]
      split_ifs <;> rfl
    · rw [putMember, if_neg hfirst, lookup_cons_eq_ite, lookup_cons_eq_ite, ih]
      grind

/-- A member that takes no other's place is one more. -/
theorem Value.length_putMember (name : String) (v : Value) (members : List (String × Value)) :
    (putMember name v members).length =
      if (members.lookup name).isSome then members.length else members.length + 1 := by
  induction members with
  | nil => rfl
  | cons m members ih =>
    obtain ⟨first, old⟩ := m
    by_cases hfirst : first = name
    · rw [putMember, if_pos hfirst, lookup_cons_eq_ite, if_pos hfirst.symm]
      rfl
    · rw [putMember, if_neg hfirst, lookup_cons_eq_ite, if_neg (Ne.symm hfirst), List.length_cons,
        ih, List.length_cons]
      split_ifs <;> rfl

/-! ### Views -/

/-- What can be seen of a value without an order of its members. -/
inductive View
  | scalar (origin : Option String) (value : Scalar)
  | array (origin : Option String) (items : List View)
  | table (origin : Option String) (count : Nat) (member? : String → Option View)

namespace View

/-- What is under a name. -/
def member? (name : String) : View → Option View
  | table _ _ member? => member? name
  | _ => none

/-- The view with another value under a name; anything else gives way to a table. -/
def set (view : View) (name : String) (new : View) : View :=
  match view with
  | table origin count member? =>
    table origin (if (member? name).isSome then count else count + 1) fun other ↦
      if other = name then some new else member? other
  | _ => table none 1 fun other ↦ if other = name then some new else none

/-- Values under two names can be put there in any order. -/
theorem set_comm {name other : String} (h : name ≠ other) (view new old : View) :
    (view.set name new).set other old = (view.set other old).set name new := by
  have hfun (get? : String → Option View) :
      (fun n ↦ if n = other then some old else if n = name then some new else get? n) =
        fun n ↦ if n = name then some new else if n = other then some old else get? n := by
    funext n
    split_ifs with hother hname <;> simp_all
  cases view with
  | table origin count get? =>
    simp only [set, if_neg h, if_neg (Ne.symm h), hfun]
    congr 1
    split_ifs <;> rfl
  | scalar | array =>
    simp only [set, if_neg h, if_neg (Ne.symm h)]
    exact congrArg _ (hfun fun _ ↦ none)

end View

mutual

/-- What can be seen of a value. -/
def Value.view : Value → View
  | .scalar origin value => .scalar origin value
  | .array origin items => .array origin (Value.viewItems items)
  | .table origin members => .table origin members.length (Value.viewMember? members)

/-- What can be seen of items. -/
def Value.viewItems : List Value → List View
  | [] => []
  | item :: more => item.view :: Value.viewItems more

/-- What can be seen of the member with a name. -/
def Value.viewMember? : List (String × Value) → String → Option View
  | [], _ => none
  | (first, v) :: more, name => if name = first then some v.view else Value.viewMember? more name

end

namespace Value

theorem viewItems_eq_map (items : List Value) : viewItems items = items.map view := by
  induction items with
  | nil => rfl
  | cons item more ih => rw [viewItems, ih, List.map_cons]

/-- What is seen under a name is the view of the member that counts. -/
theorem viewMember?_eq (members : List (String × Value)) (name : String) :
    viewMember? members name = (members.lookup name).map view := by
  induction members with
  | nil => rfl
  | cons m more ih =>
    obtain ⟨first, v⟩ := m
    rw [viewMember?, lookup_cons_eq_ite, ih]
    split_ifs <;> rfl

theorem map_view_member? (name : String) (v : Value) :
    (v.member? name).map view = v.view.member? name := by
  cases v with
  | table origin members => exact (viewMember?_eq members name).symm
  | scalar | array => rfl

/-- The value with another one under a name; anything else gives way to a table. -/
def setMember (v : Value) (name : String) (new : Value) : Value :=
  v.forceTable.withMembers (putMember name new v.forceTable.members)

/-- **Putting a value under a name shows through the views.** -/
theorem view_setMember (v : Value) (name : String) (new : Value) :
    (v.setMember name new).view = v.view.set name new.view := by
  have hview (members : List (String × Value)) :
      viewMember? (putMember name new members) = fun other ↦
        if other = name then some new.view else viewMember? members other := by
    funext other
    rw [viewMember?_eq, lookup_putMember, viewMember?_eq]
    split_ifs <;> rfl
  cases v with
  | table origin members =>
    show View.table origin (putMember name new members).length _ = View.table origin _ _
    rw [hview, length_putMember, viewMember?_eq, Option.isSome_map]
    rfl
  | scalar | array =>
    show View.table none (putMember name new []).length _ = View.table none 1 _
    rw [hview]
    rfl

/-- A member that was put is read back, and all others are read as before. -/
theorem member?_setMember (v : Value) (name other : String) (new : Value) :
    (v.setMember name new).member? other = if other = name then some new else v.member? other := by
  cases v with
  | table origin members => exact lookup_putMember name other new members
  | scalar | array => exact lookup_putMember name other new []

/-- What stands in for a missing value is the same on both sides. -/
theorem view_getD {a b : Option Value} (h : a.map view = b.map view) (v : Value) :
    (a.getD v).view = (b.getD v).view := by
  cases a <;> cases b <;> simp_all

end Value

/-- Items are seen alike if they are item by item. -/
theorem map_view_eq_iff {items others : List Value} :
    items.map Value.view = others.map Value.view ↔
      List.Forall₂ (fun a b ↦ a.view = b.view) items others := by
  rw [← List.forall₂_eq_eq_eq, List.forall₂_map_left_iff, List.forall₂_map_right_iff]

/-! ### Readings -/

/-- The same is read of values of one view. -/
def Respects {α : Type} (read : Value → Except TypedFault α) : Prop :=
  ∀ {a b : Value}, a.view = b.view → read a = read b

section Respects

variable {a b : Value}

/-- Values of one view have one shape. -/
theorem view_cases (h : a.view = b.view) :
    a = b ∨
    (∃ origin items others, a = .array origin items ∧ b = .array origin others ∧
      items.map Value.view = others.map Value.view) ∨
    ∃ origin members others, a = .table origin members ∧ b = .table origin others ∧
      members.length = others.length ∧
        ∀ name, (members.lookup name).map Value.view = (others.lookup name).map Value.view := by
  cases a <;> cases b <;>
    simp only [Value.view, View.scalar.injEq, View.array.injEq, View.table.injEq,
      Value.viewItems_eq_map, reduceCtorEq] at h
  case scalar.scalar => exact .inl (by rw [h.1, h.2])
  case array.array => exact .inr (.inl ⟨_, _, _, rfl, by rw [h.1], h.2⟩)
  case table.table =>
    refine .inr (.inr ⟨_, _, _, rfl, by rw [h.1], h.2.1, fun name ↦ ?_⟩)
    rw [← Value.viewMember?_eq, ← Value.viewMember?_eq, h.2.2]

/-- No table and no array is a text, so its order cannot matter. -/
theorem respects_asText : Respects asText := by
  intro a b h
  rcases view_cases h with rfl | ⟨_, _, _, rfl, rfl, -⟩ | ⟨_, _, _, rfl, rfl, -⟩ <;> rfl

theorem respects_asBool : Respects asBool := by
  intro a b h
  rcases view_cases h with rfl | ⟨_, _, _, rfl, rfl, -⟩ | ⟨_, _, _, rfl, rfl, -⟩ <;> rfl

theorem respects_asCount : Respects asCount := by
  intro a b h
  rcases view_cases h with rfl | ⟨_, _, _, rfl, rfl, -⟩ | ⟨_, _, _, rfl, rfl, -⟩ <;> rfl

/-- A count of 32 bits is a count with a bound. -/
theorem respects_asSmallCount : Respects asSmallCount := by
  intro a b h
  rw [asSmallCount, asSmallCount, respects_asCount h]

theorem asItems_congr {α : Type} {read : Value → Except TypedFault α} (hread : Respects read)
    {items others : List Value}
    (h : List.Forall₂ (fun a b ↦ a.view = b.view) items others) (place : Nat) :
    asItems read place items = asItems read place others := by
  induction h generalizing place with
  | nil => rfl
  | cons hab _ ih => rw [asItems, asItems, hread hab, ih]

theorem respects_asTexts : Respects asTexts := by
  intro a b h
  rcases view_cases h with rfl | ⟨_, _, _, rfl, rfl, hitems⟩ | ⟨_, _, _, rfl, rfl, -⟩
  · rfl
  · exact asItems_congr respects_asText (map_view_eq_iff.1 hitems) 0
  · rfl

/-- A table with one member has the same one in any order. -/
theorem respects_asListing : Respects asListing := by
  intro a b h
  rcases view_cases h with rfl | ⟨_, _, _, rfl, rfl, -⟩ | ⟨_, members, others, rfl, rfl, hlen, hget⟩
  · rfl
  · rfl
  · match members, others with
    | [(name, v)], [(other, w)] =>
      have hname := hget name
      simp only [Value.lookup_cons_eq_ite, if_true, List.lookup_nil] at hname
      split_ifs at hname with heq
      · rw [asListing, asListing, heq]
      · simp at hname
    | [], [] => rfl
    | _ :: _ :: _, _ :: _ :: _ => rfl

/-- Records with parts of one view under each name or at each place. -/
inductive Record.Alike : Record → Record → Prop
  | named {members others : List (String × Value)}
      (h : ∀ name, (members.lookup name).map Value.view = (others.lookup name).map Value.view) :
      Alike (.named members) (.named others)
  | placed {items others : List Value} (h : items.map Value.view = others.map Value.view) :
      Alike (.placed items) (.placed others)

/-- Values of one view stand for records that are alike, or for none. -/
theorem asRecord_cases (record : String) (h : a.view = b.view) :
    (∃ fault, asRecord record a = .error fault ∧ asRecord record b = .error fault) ∨
      ∃ r s, asRecord record a = .ok r ∧ asRecord record b = .ok s ∧ r.Alike s := by
  rcases view_cases h with rfl | ⟨_, _, _, rfl, rfl, hitems⟩ | ⟨_, _, _, rfl, rfl, -, hmembers⟩
  · cases a with
    | scalar origin value => exact .inl ⟨_, rfl, rfl⟩
    | array origin items => exact .inr ⟨_, _, rfl, rfl, .placed rfl⟩
    | table origin members => exact .inr ⟨_, _, rfl, rfl, .named fun _ ↦ rfl⟩
  · exact .inr ⟨_, _, rfl, rfl, .placed hitems⟩
  · exact .inr ⟨_, _, rfl, rfl, .named hmembers⟩

/-- The same is read of the parts of records that are alike. -/
theorem part_congr {r s : Record} (h : r.Alike s) {α : Type} {read : Value → Except TypedFault α}
    (hread : Respects read) (record : String) (wanted place : Nat) (name : String) :
    part r record wanted place name read = part s record wanted place name read := by
  have hcases {x? y? : Option Value} (hview : x?.map Value.view = y?.map Value.view) :
      x? = none ∧ y? = none ∨ ∃ v w, x? = some v ∧ y? = some w ∧ v.view = w.view := by
    cases x? <;> cases y? <;> simp_all
  cases h with
  | named h =>
    rcases hcases (h name) with ⟨hr, hs⟩ | ⟨v, w, hr, hs, hvw⟩
    · simp only [part, hr, hs]
    · simp only [part, hr, hs, hread hvw]
  | @placed items others h =>
    have hplace : (items[place]?).map Value.view = (others[place]?).map Value.view := by
      rw [← List.getElem?_map, h, List.getElem?_map]
    rcases hcases hplace with ⟨hr, hs⟩ | ⟨v, w, hr, hs, hvw⟩
    · simp only [part, hr, hs]
    · simp only [part, hr, hs, hread hvw]

/-- The formatter's settings are parts of a record. -/
theorem respects_asFormatter : Respects asFormatter := by
  intro a b h
  rw [asFormatter, asFormatter]
  rcases asRecord_cases "FormatterConfig" h with ⟨fault, ha, hb⟩ | ⟨r, s, ha, hb, hrs⟩
  · rw [ha, hb]
  · simp only [ha, hb, bind, Except.bind, part_congr hrs respects_asText,
      part_congr hrs respects_asTexts, part_congr hrs respects_asSmallCount,
      part_congr hrs respects_asBool, part_congr hrs respects_asCount]

theorem respects_asTokens : Respects asTokens := by
  intro a b h
  rw [asTokens, asTokens]
  rcases asRecord_cases "TokensConfig" h with ⟨fault, ha, hb⟩ | ⟨r, s, ha, hb, hrs⟩
  · rw [ha, hb]
  · simp only [ha, hb, bind, Except.bind, part_congr hrs respects_asListing]

/-- **The same settings are read of values of one view.** -/
theorem respects_asConfiguration : Respects asConfiguration := by
  intro a b h
  rw [asConfiguration, asConfiguration]
  rcases asRecord_cases "RonConfig" h with ⟨fault, ha, hb⟩ | ⟨r, s, ha, hb, hrs⟩
  · rw [ha, hb]
  · simp only [ha, hb, bind, Except.bind, part_congr hrs respects_asFormatter,
      part_congr hrs respects_asTokens]

end Respects

end RonWorkbench.Settings
