import Mathlib.Data.List.GetD
import Mathlib.Data.List.Nodup
import RonWorkbench.Proofs.Fallible
import RonWorkbench.Proofs.Settings.View
import RonWorkbench.Settings.Load

/-!
# Settings whatever the order

The members of a table of a file are put one after another in an order that is not the file's and
need not be the same twice. Where two of them fall on one place, the order decides. Where the names
of the members are apart (`Layer.NamesApart`), it does not: each member has a place of its own, and
what is put there depends on what is there and on nothing else (`AlikeAt`), so the members can be
put in any order (`foldlM_follows_of_perm`).

The values that two orders lead to are not equal, for the members of their tables stand in different
orders; but they have one view (`putFiles_follows`), and that is all that settings are read from.
-/

namespace RonWorkbench.Settings

open Fallible

/-- The order from the last part to the first. -/
def Order.reversed : Order where
  arrange := List.reverse
  perm := List.reverse_perm

/-! ### Putting values -/

namespace Value

/-- A value over what is there: a table is merged into it, anything else takes its place. -/
def onto (incoming : Value) (old? : Option Value) : Value :=
  match incoming with
  | .table _ members => merge members (old?.getD .emptyTable)
  | other => other

/-- **Putting a value under a name** changes what is there and nothing else. -/
theorem put_eq_setMember (name : String) (incoming v : Value) :
    put name incoming v =
      v.setMember (foldName name) (incoming.onto (v.member? (foldName name))) := by
  have hmember : v.forceTable.member? (foldName name) = v.member? (foldName name) := by
    cases v <;> rfl
  cases incoming with
  | table origin members =>
    rw [put, hmember]
    rfl
  | scalar | array =>
    rw [put]
    · rfl
    · simp

mutual

/-- What comes of a value over another shows through the view of the other. -/
theorem view_onto_congr (incoming : Value) {a b : Option Value} (h : a.map view = b.map view) :
    (incoming.onto a).view = (incoming.onto b).view :=
  match incoming with
  | .table _ members => view_merge_congr members (view_getD h .emptyTable)
  | .scalar _ _ | .array _ _ => rfl

/-- Members merged into values of one view give values of one view. -/
theorem view_merge_congr (members : List (String × Value)) {a b : Value} (h : a.view = b.view) :
    (merge members a).view = (merge members b).view :=
  match members with
  | [] => by rwa [merge, merge]
  | (name, v) :: more => by
    rw [merge, merge]
    refine view_merge_congr more ?_
    rw [put_eq_setMember, put_eq_setMember, view_setMember, view_setMember, h]
    congr 1
    exact view_onto_congr v (by rw [map_view_member?, map_view_member?, h])

end

/-- Two values look the same, and so does what comes of them over values that look the same. -/
structure Alike (a b : Value) : Prop where
  view_eq : a.view = b.view
  view_onto_eq : ∀ {old? other? : Option Value}, old?.map view = other?.map view →
    (a.onto old?).view = (b.onto other?).view

theorem Alike.refl (v : Value) : v.Alike v :=
  ⟨rfl, view_onto_congr v⟩

end Value

/-! ### Steps that can fail -/

section Follows

variable {ε α : Type}

/-- Where the first computation gives a value, the second gives one of the same view. -/
def Follows (x y : Except ε Value) : Prop :=
  ∀ a, x = .ok a → ∃ b, y = .ok b ∧ a.view = b.view

theorem Follows.ok {a b : Value} (h : a.view = b.view) :
    Follows (.ok a : Except ε Value) (.ok b) := by
  rintro _ ⟨⟩
  exact ⟨b, rfl, h⟩

theorem Follows.view_eq {a b : Value} (h : Follows (.ok a : Except ε Value) (.ok b)) :
    a.view = b.view := by
  obtain ⟨_, ⟨⟩, hview⟩ := h a rfl
  exact hview

theorem Follows.trans {x y z : Except ε Value} (h : Follows x y) (h' : Follows y z) :
    Follows x z := by
  intro a ha
  obtain ⟨b, hb, hab⟩ := h a ha
  obtain ⟨c, hc, hbc⟩ := h' b hb
  exact ⟨c, hc, hab.trans hbc⟩

/-- Computations in a row follow each other if they do one by one. -/
theorem Follows.bind {x y : Except ε Value} (h : Follows x y) {f g : Value → Except ε Value}
    (hfg : ∀ a b, a.view = b.view → Follows (f a) (g b)) : Follows (x >>= f) (y >>= g) := by
  intro c hc
  obtain ⟨a, ha, hc⟩ := bind_eq_ok.1 hc
  obtain ⟨b, hb, hab⟩ := h a ha
  obtain ⟨d, hd, hcd⟩ := hfg a b hab c hc
  exact ⟨d, bind_eq_ok.2 ⟨b, hb, hd⟩, hcd⟩

/--
Two steps change what is under one name, from what is there, and do it alike: what they put there
looks the same if what is there does.
-/
def AlikeAt (name : String) (step other : Value → Except ε Value) : Prop :=
  ∃ change change' : Option Value → Except ε Value,
    (∀ v, step v = (change (v.member? name)).map (v.setMember name)) ∧
      (∀ v, other v = (change' (v.member? name)).map (v.setMember name)) ∧
        ∀ old? old?', old?.map Value.view = old?'.map Value.view →
          Follows (change old?) (change' old?')

section AlikeAt

variable {name other : String} {f g f' g' : Value → Except ε Value} {a b : Value}

/-- A step follows one that is alike. -/
theorem AlikeAt.follows (h : AlikeAt name f g) (hab : a.view = b.view) :
    Follows (f a) (g b) := by
  obtain ⟨change, change', hf, hg, hchange⟩ := h
  intro c hc
  rw [hf, map_eq_ok] at hc
  obtain ⟨new, hnew, rfl⟩ := hc
  obtain ⟨new', hnew', hview⟩ := hchange (a.member? name) (b.member? name)
    (by rw [Value.map_view_member?, Value.map_view_member?, hab]) new hnew
  refine ⟨b.setMember name new', by rw [hg, hnew']; rfl, ?_⟩
  rw [Value.view_setMember, Value.view_setMember, hab, hview]

/-- **Steps at two names can be taken in any order.** -/
theorem AlikeAt.follows_swap (h : AlikeAt name f f') (h' : AlikeAt other g g')
    (hne : name ≠ other) (hab : a.view = b.view) :
    Follows (f a >>= g) (g' b >>= f') := by
  obtain ⟨change, change', hf, hf', hchange⟩ := h
  obtain ⟨next, next', hg, hg', hnext⟩ := h'
  have hmember (n : String) : (a.member? n).map Value.view = (b.member? n).map Value.view := by
    rw [Value.map_view_member?, Value.map_view_member?, hab]
  intro c hc
  obtain ⟨d, hd, hc⟩ := bind_eq_ok.1 hc
  rw [hf, map_eq_ok] at hd
  obtain ⟨new, hnew, rfl⟩ := hd
  -- what the first step puts is not where the second one looks, and the other way round
  rw [hg, Value.member?_setMember, if_neg (Ne.symm hne), map_eq_ok] at hc
  obtain ⟨old, hold, rfl⟩ := hc
  obtain ⟨new', hnew', hnewview⟩ := hchange _ _ (hmember name) new hnew
  obtain ⟨old', hold', holdview⟩ := hnext _ _ (hmember other) old hold
  refine ⟨(b.setMember other old').setMember name new', bind_eq_ok.2 ⟨b.setMember other old', ?_,
    ?_⟩, ?_⟩
  · rw [hg', hold']
    rfl
  · rw [hf', Value.member?_setMember, if_neg hne, hnew']
    rfl
  · simp only [Value.view_setMember, hab, hnewview, holdview]
    exact View.set_comm hne b.view new'.view old'.view

/-- Putting values under a name that are alike. -/
theorem alikeAt_put {v w : Value} (h : v.Alike w) (written : String) :
    AlikeAt (foldName written) (fun target ↦ (.ok (Value.put written v target) : Except ε Value))
      fun target ↦ .ok (Value.put written w target) := by
  have hput (incoming target : Value) : (.ok (Value.put written incoming target) : Except ε Value) =
      Except.map (target.setMember (foldName written))
        (.ok (incoming.onto (target.member? (foldName written)))) := by
    rw [Value.put_eq_setMember]
    rfl
  exact ⟨fun old? ↦ .ok (v.onto old?), fun old? ↦ .ok (w.onto old?), hput v, hput w,
    fun _ _ hold ↦ .ok (h.view_onto_eq hold)⟩

end AlikeAt

variable {step : α → Value → Except ε Value} (nameOf : α → String) {l l' : List α}

/-- Steps that are alike, one after another. -/
theorem foldlM_follows_of_forall₂ {β : Type} {step' : β → Value → Except ε Value} {m : List β}
    (h : List.Forall₂ (fun x y ↦ AlikeAt (nameOf x) (step x) (step' y)) l m) {a b : Value}
    (hab : a.view = b.view) :
    Follows (l.foldlM (fun v x ↦ step x v) a) (m.foldlM (fun v y ↦ step' y v) b) := by
  induction h generalizing a b with
  | nil => exact .ok hab
  | cons hxy _ ih =>
    rw [List.foldlM_cons, List.foldlM_cons]
    exact (hxy.follows hab).bind fun _ _ ↦ ih

/-- **Steps at names that are apart can be taken in any order.** -/
theorem foldlM_follows_of_perm (hperm : l.Perm l') (hnodup : (l.map nameOf).Nodup)
    (hstep : ∀ x ∈ l, AlikeAt (nameOf x) (step x) (step x)) {a b : Value}
    (hab : a.view = b.view) :
    Follows (l.foldlM (fun v x ↦ step x v) a) (l'.foldlM (fun v x ↦ step x v) b) := by
  induction hperm generalizing a b with
  | nil => exact .ok hab
  | cons x hperm ih =>
    rw [List.map_cons, List.nodup_cons] at hnodup
    rw [List.forall_mem_cons] at hstep
    rw [List.foldlM_cons, List.foldlM_cons]
    exact (hstep.1.follows hab).bind fun _ _ ↦ ih hnodup.2 hstep.2
  -- The only case with two members at once: they have different names, so either may be put first.
  | swap x y l =>
    simp only [List.map_cons, List.nodup_cons, List.mem_cons, not_or] at hnodup
    simp only [List.forall_mem_cons] at hstep
    obtain ⟨hy, hx, hl⟩ := hstep
    simp only [List.foldlM_cons, ← bind_assoc]
    exact (hy.follows_swap hx hnodup.1.1 hab).bind fun _ _ ↦
      foldlM_follows_of_forall₂ nameOf (List.forall₂_same.2 hl)
  | trans hperm hperm' ih ih' =>
    exact (ih hnodup hstep hab).trans (ih' ((hperm.map nameOf).nodup_iff.1 hnodup)
      (fun x hx ↦ hstep x (hperm.mem_iff.2 hx)) rfl)

end Follows

/-! ### Tables whose names are apart -/

/-- Names that differ in lower case too. -/
def areApart (names : List String) : Bool :=
  decide (names.map foldName).Nodup

mutual

/-- The names in each table of a value are apart. -/
def valueApart : Toml → Bool
  | .array items => itemsApart items
  | .table members => areApart (members.map Prod.fst) && membersApart members
  | _ => true

/-- The names in each table of each item are apart. -/
def itemsApart : List Toml → Bool
  | [] => true
  | item :: more => valueApart item && itemsApart more

/-- The names in each table of each member are apart. -/
def membersApart : List (String × Toml) → Bool
  | [] => true
  | (_, v) :: more => valueApart v && membersApart more

end

/-- The members have the same names one by one, and their values are alike. -/
abbrev AlikeMembers : List (String × Value) → List (String × Value) → Prop :=
  List.Forall₂ fun m n ↦ m.1 = n.1 ∧ m.2.Alike n.2

/-- The members are alike but for the order in which they stand. -/
def Rearranged (members others : List (String × Value)) : Prop :=
  ∃ m n, members.Perm m ∧ AlikeMembers m n ∧ n.Perm others

section Rearranged

variable {members others : List (String × Value)}

/-- Where no name occurs twice, members can be looked up in any order. -/
theorem lookup_eq_of_perm (h : members.Perm others) (hnodup : (members.map Prod.fst).Nodup)
    (name : String) : members.lookup name = others.lookup name := by
  induction h with
  | nil => rfl
  | cons m _ ih =>
    rw [List.map_cons, List.nodup_cons] at hnodup
    rw [Value.lookup_cons_eq_ite, Value.lookup_cons_eq_ite, ih hnodup.2]
  | swap m n l =>
    obtain ⟨first, v⟩ := m
    obtain ⟨second, w⟩ := n
    simp only [List.map_cons, List.nodup_cons, List.mem_cons, not_or] at hnodup
    simp only [Value.lookup_cons_eq_ite]
    split_ifs with hn hm <;> simp_all
  | trans h _ ih ih' => exact (ih hnodup).trans (ih' ((h.map Prod.fst).nodup_iff.1 hnodup))

/-- Under each name, members that are alike show the same. -/
theorem AlikeMembers.map_view_lookup (h : AlikeMembers members others) (name : String) :
    (members.lookup name).map Value.view = (others.lookup name).map Value.view := by
  induction h with
  | nil => rfl
  | @cons m n _ _ hmn _ ih =>
    rw [Value.lookup_cons_eq_ite, Value.lookup_cons_eq_ite, hmn.1]
    split_ifs
    · exact congrArg some hmn.2.view_eq
    · exact ih

theorem AlikeMembers.map_eq (h : AlikeMembers members others) {α : Type} (f : String → α) :
    members.map (fun m ↦ f m.1) = others.map fun m ↦ f m.1 := by
  induction h with
  | nil => rfl
  | cons hmn _ ih => rw [List.map_cons, List.map_cons, hmn.1, ih]

/--
**Members are put in any order**, by steps that take members which are alike to the same name and do
alike there.
-/
theorem Rearranged.foldlM_follows (h : Rearranged members others) {ε : Type}
    (step : String × Value → Value → Except ε Value) (nameOf : String → String)
    (hstep : ∀ name v w, v.Alike w → AlikeAt (nameOf name) (step (name, v)) (step (name, w)))
    (hnodup : (members.map fun m ↦ nameOf m.1).Nodup) {a b : Value} (hab : a.view = b.view) :
    Follows (members.foldlM (fun v m ↦ step m v) a) (others.foldlM (fun v m ↦ step m v) b) := by
  obtain ⟨m, n, hm, hmn, hn⟩ := h
  have hself (x : String × Value) : AlikeAt (nameOf x.1) (step x) (step x) :=
    hstep x.1 x.2 x.2 (.refl x.2)
  have hmnodup : (m.map fun m ↦ nameOf m.1).Nodup :=
    (hm.map fun m : String × Value ↦ nameOf m.1).nodup_iff.1 hnodup
  have hnnodup : (n.map fun m ↦ nameOf m.1).Nodup := by
    rwa [← hmn.map_eq nameOf]
  have halike : List.Forall₂ (fun x y ↦ AlikeAt (nameOf x.1) (step x) (step y)) m n := by
    refine hmn.imp fun x y hxy ↦ ?_
    obtain ⟨name, v⟩ := x
    obtain ⟨other, w⟩ := y
    obtain ⟨rfl, hvw⟩ := hxy
    exact hstep name v w hvw
  exact ((foldlM_follows_of_perm (fun m ↦ nameOf m.1) hm hnodup (fun x _ ↦ hself x) hab).trans
    (foldlM_follows_of_forall₂ (fun m ↦ nameOf m.1) halike rfl)).trans
      (foldlM_follows_of_perm (fun m ↦ nameOf m.1) hn hnnodup (fun x _ ↦ hself x) rfl)

/-- Merging members is putting them one after another, and does not fail. -/
theorem ok_merge {ε : Type} (members : List (String × Value)) (v : Value) :
    (.ok (Value.merge members v) : Except ε Value) =
      members.foldlM (fun v m ↦ .ok (Value.put m.1 m.2 v)) v := by
  induction members generalizing v with
  | nil => rfl
  | cons m more ih =>
    rw [Value.merge, ih]
    rfl

/-- **A table whose names are apart is the same in any order.** -/
theorem Rearranged.alike_table (h : Rearranged members others)
    (hnodup : (members.map fun m ↦ foldName m.1).Nodup) (origin : Option String) :
    (Value.table origin members).Alike (.table origin others) where
  view_eq := by
    obtain ⟨m, n, hm, hmn, hn⟩ := h
    -- Names that stay apart when they are folded are apart as they are.
    have hnames : (members.map Prod.fst).Nodup := by
      rw [show (members.map fun m ↦ foldName m.1) = (members.map Prod.fst).map foldName by simp]
        at hnodup
      exact hnodup.of_map foldName
    have hothers : (n.map Prod.fst).Nodup := by
      have heq : m.map Prod.fst = n.map Prod.fst := hmn.map_eq id
      rw [← heq]
      exact (hm.map Prod.fst).nodup_iff.1 hnames
    have hcount : members.length = others.length :=
      hm.length_eq.trans (hmn.length_eq.trans hn.length_eq)
    have hmember : Value.viewMember? members = Value.viewMember? others := by
      funext name
      rw [Value.viewMember?_eq, Value.viewMember?_eq, lookup_eq_of_perm hm hnames,
        hmn.map_view_lookup, lookup_eq_of_perm hn hothers]
    rw [Value.view, Value.view, hcount, hmember]
  view_onto_eq {old? other?} hold := by
    have hview : (old?.getD .emptyTable).view = (other?.getD .emptyTable).view :=
      Value.view_getD hold _
    have hfollows : Follows (.ok (Value.merge members (old?.getD .emptyTable)) : Except Unit Value)
        (.ok (Value.merge others (other?.getD .emptyTable))) := by
      rw [ok_merge, ok_merge]
      exact h.foldlM_follows (fun m v ↦ .ok (Value.put m.1 m.2 v)) foldName
        (fun name v w hvw ↦ alikeAt_put hvw name) hnodup hview
    exact hfollows.view_eq

end Rearranged

/-! ### Values of files -/

section OfToml

variable (first second : Order) (origin : Option String)

/-- What is arranged in two orders is rearranged. -/
theorem rearranged_arrange {members others : List (String × Value)}
    (h : AlikeMembers members others) :
    Rearranged (first.arrange members) (second.arrange others) :=
  ⟨members, others, first.perm members, h, (second.perm others).symm⟩

/-- The members of a file have the names that are written there. -/
theorem map_ofTomlMembers (order : Order) (members : List (String × Toml)) (f : String → String) :
    (Value.ofTomlMembers order origin members).map (fun m ↦ f m.1) =
      members.map fun m ↦ f m.1 := by
  induction members with
  | nil => rfl
  | cons m more ih =>
    obtain ⟨name, v⟩ := m
    rw [Value.ofTomlMembers, List.map_cons, ih, List.map_cons]

mutual

/-- **A value of a file whose names are apart** is the same in two orders. -/
theorem alike_ofToml (t : Toml) (h : valueApart t = true) :
    (Value.ofToml first origin t).Alike (Value.ofToml second origin t) :=
  match t with
  | .string _ | .integer _ | .float _ | .bool _ | .date _ => .refl _
  | .array items => by
    have hitems : (Value.ofTomlItems first origin items).map Value.view =
        (Value.ofTomlItems second origin items).map Value.view :=
      map_view_eq_iff.2 ((alike_ofTomlItems items h).imp fun _ _ hab ↦ hab.view_eq)
    have hview : (Value.ofToml first origin (.array items)).view =
        (Value.ofToml second origin (.array items)).view := by
      simp only [Value.ofToml, Value.view, Value.viewItems_eq_map, hitems]
    exact ⟨hview, fun _ ↦ hview⟩
  | .table members => by
    obtain ⟨hnames, hmembers⟩ := Bool.and_eq_true_iff.1 h
    refine (rearranged_arrange first second (alike_ofTomlMembers members hmembers)).alike_table
      ?_ origin
    have hperm : ((first.arrange (Value.ofTomlMembers first origin members)).map
        fun m ↦ foldName m.1).Perm ((members.map Prod.fst).map foldName) := by
      rw [List.map_map, Function.comp_def, ← map_ofTomlMembers origin first members foldName]
      exact (first.perm _).map _
    exact hperm.nodup_iff.2 (of_decide_eq_true hnames)

/-- The items of an array, one by one. -/
theorem alike_ofTomlItems (items : List Toml) (h : itemsApart items = true) :
    List.Forall₂ Value.Alike (Value.ofTomlItems first origin items)
      (Value.ofTomlItems second origin items) :=
  match items with
  | [] => .nil
  | item :: more =>
    .cons (alike_ofToml item (Bool.and_eq_true_iff.1 h).1)
      (alike_ofTomlItems more (Bool.and_eq_true_iff.1 h).2)

/-- The members of a table, one by one. -/
theorem alike_ofTomlMembers (members : List (String × Toml)) (h : membersApart members = true) :
    AlikeMembers (Value.ofTomlMembers first origin members)
      (Value.ofTomlMembers second origin members) :=
  match members with
  | [] => .nil
  | (_, v) :: more =>
    .cons ⟨rfl, alike_ofToml v (Bool.and_eq_true_iff.1 h).1⟩
      (alike_ofTomlMembers more (Bool.and_eq_true_iff.1 h).2)

end

end OfToml

/-! ### Keys -/

/-- A change of an item shows through the views of the items. -/
theorem changeItem_follows {change change' : Value → Except SubscriptFault Value}
    (hchange : ∀ a b, a.view = b.view → Follows (change a) (change' b)) (place : Nat)
    {items others : List Value} (h : items.map Value.view = others.map Value.view)
    {changed : List Value} (hchanged : changeItem place change items = .ok changed) :
    ∃ changed', changeItem place change' others = .ok changed' ∧
      changed.map Value.view = changed'.map Value.view := by
  have hlength : items.length = others.length := by
    rw [← List.length_map Value.view, h, List.length_map]
  have hfilled : (items ++ List.replicate (place + 1 - items.length) Value.nothing).map Value.view =
      (others ++ List.replicate (place + 1 - others.length) Value.nothing).map Value.view := by
    rw [List.map_append, List.map_append, h, hlength]
  obtain ⟨new, hnew, hset⟩ := bind_eq_ok.1 hchanged
  obtain rfl := pure_eq_ok.1 hset
  have hold : ((items ++ List.replicate (place + 1 - items.length) Value.nothing).getD place
      .nothing).view = ((others ++ List.replicate (place + 1 - others.length) Value.nothing).getD
        place .nothing).view := by
    rw [← List.getD_map _ _ Value.view, ← List.getD_map _ _ Value.view, hfilled]
  obtain ⟨new', hnew', hview⟩ := hchange _ _ hold new hnew
  refine ⟨_, bind_eq_ok.2 ⟨new', hnew', rfl⟩, ?_⟩
  rw [List.map_set, List.map_set, hfilled, hview]

/-- Along a key, too, what is under the first name is changed from what is there. -/
theorem alikeAt_putAlong {v w : Value} (h : v.Alike w) (name : String) {steps : List KeyStep}
    (hsteps : ∀ {a b : Value}, a.view = b.view →
      Follows (putAlong v steps a) (putAlong w steps b)) :
    AlikeAt (foldName name) (putAlong v (.name name :: steps))
      (putAlong w (.name name :: steps)) := by
  cases steps with
  | nil => exact alikeAt_put h name
  | cons step steps =>
    -- All that the rest of the path sees is the member with this name.
    have hput (incoming target : Value) : putAlong incoming (.name name :: step :: steps) target =
        (putAlong incoming (step :: steps)
          ((target.member? (foldName name)).getD .nothing)).map
            (target.setMember (foldName name)) := by
      have hmember : target.forceTable.member? (foldName name) =
          target.member? (foldName name) := by
        cases target <;> rfl
      rw [putAlong]
      · rw [hmember]
        cases putAlong incoming (step :: steps)
          ((target.member? (foldName name)).getD .nothing) <;> rfl
      · simp
    exact ⟨fun old? ↦ putAlong v (step :: steps) (old?.getD .nothing),
      fun old? ↦ putAlong w (step :: steps) (old?.getD .nothing), hput v, hput w,
      fun _ _ hold ↦ hsteps (Value.view_getD hold _)⟩

/-- Arrays of one view have items of one view; anything else gives way to the same array. -/
theorem exists_forceArray {a b : Value} (h : a.view = b.view) :
    ∃ origin items others, a.forceArray = .array origin items ∧
      b.forceArray = .array origin others ∧
      items.map Value.view = others.map Value.view := by
  cases a <;> cases b <;>
    simp only [Value.view, View.array.injEq, Value.viewItems_eq_map, reduceCtorEq] at h
  case array.array origin items other others => exact ⟨_, _, _, rfl, by rw [h.1]; rfl, h.2⟩
  all_goals exact ⟨none, [], [], rfl, rfl, rfl⟩

/-- **Values that are alike are put at a key alike.** -/
theorem putAlong_follows {v w : Value} (h : v.Alike w) (steps : List KeyStep) {a b : Value}
    (hab : a.view = b.view) : Follows (putAlong v steps a) (putAlong w steps b) := by
  induction steps generalizing a b with
  | nil => exact .ok h.view_eq
  | cons step steps ih =>
    cases step with
    | name name => exact (alikeAt_putAlong h name ih).follows hab
    | subscript index =>
      -- Items have no order of their own to lose, so the subscript leads to the same place in both.
      obtain ⟨origin, items, others, ha, hb, hitems⟩ := exists_forceArray hab
      have hlength : items.length = others.length := by
        rw [← List.length_map Value.view, hitems, List.length_map]
      intro c hc
      rw [putAlong, ha] at hc
      obtain ⟨place, hplace, hc⟩ := bind_eq_ok.1 hc
      obtain ⟨changed, hchanged, hc⟩ := bind_eq_ok.1 hc
      obtain rfl := pure_eq_ok.1 hc
      obtain ⟨changed', hchanged', hview⟩ := changeItem_follows (fun _ _ ↦ ih) place hitems hchanged
      refine ⟨.array origin changed', ?_, ?_⟩
      · rw [putAlong, hb]
        refine bind_eq_ok.2 ⟨place, ?_, bind_eq_ok.2 ⟨changed', hchanged', rfl⟩⟩
        rwa [Value.items, ← hlength]
      · rw [Value.withItems, Value.view, Value.view, Value.viewItems_eq_map,
          Value.viewItems_eq_map, hview]

/-- The name under which a member of a file changes the root: the first one of its key. -/
def firstName (written : String) : String :=
  match Key.parse? written with
  | some key => key.first
  | none => written

/-- Put one member of a file over a root. -/
def putMemberAt (m : String × Value) (root : Value) : Except SubscriptFault Value :=
  match Key.parse? m.1 with
  | some key => key.put m.2 root
  | none => .ok (Value.put m.1 m.2 root)

theorem putLayer_eq_foldlM (members : List (String × Value)) (root : Value) :
    putLayer members root = members.foldlM (fun root m ↦ putMemberAt m root) root := by
  induction members generalizing root with
  | nil => rfl
  | cons m more ih =>
    obtain ⟨name, v⟩ := m
    rw [putLayer, List.foldlM_cons, putMemberAt]
    simp only [← ih]
    cases Key.parse? name <;> rfl

/-- **A member of a file changes what is under its first name.** -/
theorem alikeAt_putMemberAt (name : String) (v w : Value) (h : v.Alike w) :
    AlikeAt (foldName (firstName name)) (putMemberAt (name, v)) (putMemberAt (name, w)) := by
  unfold firstName
  unfold putMemberAt
  split
  · next key hkey =>
    simp only [hkey]
    exact alikeAt_putAlong h key.first (putAlong_follows h key.steps)
  · next hkey =>
    simp only [hkey]
    exact alikeAt_put h name

/-! ### Files of settings -/

/--
The names in the file of a layer are apart: those that its members have in the root, and those in
each table below.
-/
def Layer.NamesApart (layer : Layer) (files : Files) (here : Path) : Prop :=
  ∀ found ∈ (layer.toml files here).toOption,
    areApart (found.2.map fun m ↦ firstName m.1) = true ∧ membersApart found.2 = true

instance (layer : Layer) (files : Files) (here : Path) : Decidable (layer.NamesApart files here) :=
  inferInstanceAs (Decidable (∀ found ∈ (layer.toml files here).toOption, _))

section Files

variable {first second : Order} {files : Files} {here : Path} {a b : Value}

/-- A failed subscript is reported of both or of neither. -/
theorem Follows.subscripted {x y : Except SubscriptFault Value} (h : Follows x y) :
    Follows (subscripted x) (subscripted y) := by
  intro c hc
  obtain ⟨d, hd, hview⟩ := h c (mapError_eq_ok.1 hc)
  exact ⟨d, mapError_eq_ok.2 hd, hview⟩

/-- A file whose names are apart is put alike in any order. -/
theorem putLayer_follows {layer : Layer} (h : layer.NamesApart files here)
    (hab : a.view = b.view) :
    Follows
      (layer.read first files here >>= fun members ↦ subscripted (putLayer members a))
      (layer.read second files here >>= fun members ↦ subscripted (putLayer members b)) := by
  intro c hc
  obtain ⟨members, hmembers, hc⟩ := bind_eq_ok.1 hc
  obtain ⟨⟨origin, written⟩, htoml, hmembers⟩ := bind_eq_ok.1 hmembers
  obtain rfl := pure_eq_ok.1 hmembers
  obtain ⟨hnames, hvalues⟩ := h (origin, written) (toOption_eq_some.2 htoml)
  -- The names are compared as they are looked up: the first of each path, folded.
  have hnodup : ((first.arrange (Value.ofTomlMembers first origin written)).map
      fun m ↦ foldName (firstName m.1)).Nodup := by
    refine ((first.perm _).map _).nodup_iff.2 ?_
    rw [map_ofTomlMembers origin first written fun name ↦ foldName (firstName name)]
    simpa [areApart, Function.comp_def] using hnames
  have hfollows : Follows
      (putLayer (first.arrange (Value.ofTomlMembers first origin written)) a)
      (putLayer (second.arrange (Value.ofTomlMembers second origin written)) b) := by
    rw [putLayer_eq_foldlM, putLayer_eq_foldlM]
    exact (rearranged_arrange first second
      (alike_ofTomlMembers first second origin written hvalues)).foldlM_follows putMemberAt
        (fun name ↦ foldName (firstName name)) alikeAt_putMemberAt hnodup hab
  obtain ⟨d, hd, hview⟩ := hfollows.subscripted c hc
  exact ⟨d, bind_eq_ok.2 ⟨_, bind_eq_ok.2 ⟨_, htoml, rfl⟩, hd⟩, hview⟩

/-- **Files whose names are apart can be gone through in any order.** -/
theorem putFiles_follows {layers : List Layer} (h : ∀ layer ∈ layers, layer.NamesApart files here)
    (hab : a.view = b.view) :
    Follows (putFiles first files here layers a) (putFiles second files here layers b) := by
  induction layers generalizing a b with
  | nil => exact .ok hab
  | cons layer layers ih =>
    rw [List.forall_mem_cons] at h
    rw [putFiles, putFiles, List.foldlM_cons, List.foldlM_cons]
    exact (putLayer_follows h.1 hab).bind fun _ _ ↦ ih h.2

end Files

end RonWorkbench.Settings
