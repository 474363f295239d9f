import RonWorkbench.Bits
import RonWorkbench.Text.Lower
import RonWorkbench.Toml.Basic

/-!
# Layers of settings

Settings come in layers: the defaults, then files, then values given one by one, each put over what
is there. A value is put at a key, which is a path of names and subscripts (`formatter.path`,
`extra_args[0]`). Tables are merged name by name and everything else is replaced; on the way to a
key, whatever is no table or no array gives way to one.

Names are compared in lower case. A value remembers the file that it came from; a table that layers
are merged into comes from none.

The members of a table are put one after another, but the table of a file has no order: it may be
gone through in one order in one run and in another in the next (`Order`). Two members whose names
are the same in lower case fall on one place, and then it is the order that decides which of them
stays. The same holds of the values given one by one.
-/

namespace RonWorkbench.Settings

/-- A value that has no parts. -/
inductive Scalar
  | nothing
  | bool (value : Bool)
  | integer (value : Int)
  | natural (value : Nat)
  | float (value : Float)
  | string (value : String)
  deriving Repr

/-- A value and its parts with the files they came from. -/
inductive Value
  | scalar (origin : Option String) (value : Scalar)
  | array (origin : Option String) (items : List Value)
  | table (origin : Option String) (members : List (String × Value))
  deriving Inhabited

namespace Value

/-- No value yet. -/
def nothing : Value :=
  scalar none .nothing

/-- A table that layers are merged into. -/
def emptyTable : Value :=
  table none []

/-- The members of a table; anything else gives way to an empty one. -/
def members : Value → List (String × Value)
  | table _ members => members
  | _ => []

/-- The items of an array; anything else gives way to an empty one. -/
def items : Value → List Value
  | array _ items => items
  | _ => []

/-- A value is a table. -/
def isTable : Value → Bool
  | table _ _ => true
  | _ => false

/-- A value is an array. -/
def isArray : Value → Bool
  | array _ _ => true
  | _ => false

/-- The table itself, or a new one in place of anything else. -/
def forceTable (v : Value) : Value :=
  if v.isTable then v else emptyTable

/-- The array itself, or a new one in place of anything else. -/
def forceArray (v : Value) : Value :=
  if v.isArray then v else array none []

/-- The same table or array with other parts. -/
def withMembers (v : Value) (members : List (String × Value)) : Value :=
  match v with
  | table origin _ => table origin members
  | _ => table none members

/-- The same array with other items. -/
def withItems (v : Value) (items : List Value) : Value :=
  match v with
  | array origin _ => array origin items
  | _ => array none items

/-- The member with a name. -/
def member? (name : String) (v : Value) : Option Value :=
  v.members.lookup name

/-- Put a member in place of the one with its name, or behind all. -/
def putMember (name : String) (new : Value) : List (String × Value) → List (String × Value)
  | [] => [(name, new)]
  | (n, v) :: more => if n = name then (name, new) :: more else (n, v) :: putMember name new more

end Value

/-- Names are compared in lower case. -/
def foldName (name : String) : String :=
  String.ofList (Text.lower name.toList)

/-! ### Order -/

/-- An order in which parts are gone through that have none of their own. -/
structure Order where
  arrange : {α : Type} → List α → List α
  perm : ∀ {α : Type} (parts : List α), (arrange parts).Perm parts

/-- The order in which the parts are written. -/
def Order.written : Order where
  arrange := id
  perm _ := .refl _

/-! ### From files -/

section OfToml

variable (order : Order) (origin : Option String)

mutual

/-- A value of a file. -/
def Value.ofToml : Toml → Value
  | .string s => .scalar origin (.string s)
  | .integer n => .scalar origin (.integer n)
  | .float x => .scalar origin (.float x)
  | .bool b => .scalar origin (.bool b)
  | .date text => .scalar origin (.string text)
  | .array items => .array origin (Value.ofTomlItems items)
  | .table members => .table origin (order.arrange (Value.ofTomlMembers members))

/-- The items of an array of a file. -/
def Value.ofTomlItems : List Toml → List Value
  | [] => []
  | item :: more => Value.ofToml item :: Value.ofTomlItems more

/-- The members of a table of a file, as they are written. -/
def Value.ofTomlMembers : List (String × Toml) → List (String × Value)
  | [] => []
  | (name, v) :: more => (name, Value.ofToml v) :: Value.ofTomlMembers more

end

end OfToml

/-! ### Merging -/

mutual

/--
Put a value under a name. A table is merged into what is there, so one without members changes
nothing.
-/
def Value.put (name : String) (incoming : Value) (target : Value) : Value :=
  let target := target.forceTable
  let name := foldName name
  match incoming with
  | .table _ members =>
    let inner := (target.member? name).getD .emptyTable
    target.withMembers (Value.putMember name (Value.merge members inner) target.members)
  | other => target.withMembers (Value.putMember name other target.members)

/-- Put members one after another. -/
def Value.merge (members : List (String × Value)) (target : Value) : Value :=
  match members with
  | [] => target
  | (name, v) :: more => Value.merge more (Value.put name v target)

end

/-! ### Keys -/

/-- A step of a key. -/
inductive KeyStep
  | name (name : String)
  | subscript (index : Int)
  deriving Repr, DecidableEq

/-- A path of names and subscripts, the first a name. -/
structure Key where
  first : String
  steps : List KeyStep
  deriving Repr, DecidableEq

namespace Key

/-- Characters of the names of a key. -/
def isNameChar (c : Char) : Bool :=
  c.isAlphanum || c == ' ' || c == '_' || c == '-'

/-- A name at the start of a text. -/
def name? (rest : List Char) : Option (String × List Char) :=
  let run := rest.takeWhile isNameChar
  if run.isEmpty then none else some (String.ofList run, rest.drop run.length)

/-- Blanks that may stand around a subscript. -/
def isGap (c : Char) : Bool :=
  c == ' ' || c == '\t' || c == '\r' || c == '\n'

/-- A whole number with an optional minus and blanks around it. -/
def index? (rest : List Char) : Option (Int × List Char) :=
  let rest := rest.dropWhile isGap
  let (negative, rest) :=
    match rest with
    | '-' :: more => (true, more)
    | _ => (false, rest)
  let digits := rest.takeWhile Char.isDigit
  let n := digits.foldl (fun n c ↦ n * 10 + (c.toNat - '0'.toNat)) 0
  let limit := if negative then Bits.wordCount 63 else Bits.wordCount 63 - 1
  if digits.isEmpty ∨ limit < n then
    none
  else
    some (if negative then -(n : Int) else n, (rest.drop digits.length).dropWhile isGap)

/-- The steps behind the first name. -/
def steps? : Nat → List Char → Option (List KeyStep)
  | _, [] => some []
  | 0, _ => none
  | fuel + 1, '.' :: rest => do
    let (name, rest) ← name? rest
    return .name name :: (← steps? fuel rest)
  | fuel + 1, '[' :: rest => do
    let (index, rest) ← index? rest
    match rest with
    | ']' :: rest => return .subscript index :: (← steps? fuel rest)
    | _ => none
  | _ + 1, _ => none

/-- The key that a text stands for. -/
def parse? (text : String) : Option Key := do
  let (first, rest) ← name? text.toList
  return ⟨first, ← steps? rest.length rest⟩

end Key

/-- A subscript that counts back beyond the start of its array. -/
structure SubscriptFault where
  index : Int

/-- The place of a subscript; a negative one counts from the end. -/
def placeOf (index : Int) (length : Nat) : Except SubscriptFault Nat :=
  if 0 ≤ index then .ok index.toNat
  else if -index ≤ length then .ok (length - (-index).toNat)
  else .error ⟨index⟩

/-- Items with a change at a place, filled up to it with nothing. -/
def changeItem (place : Nat) (change : Value → Except SubscriptFault Value) (items : List Value) :
    Except SubscriptFault (List Value) := do
  let items := items ++ List.replicate (place + 1 - items.length) Value.nothing
  let changed ← change (items.getD place .nothing)
  return items.set place changed

/-- Put a value at the end of the steps from a value on. -/
def putAlong (incoming : Value) : List KeyStep → Value → Except SubscriptFault Value
  | [], _ => .ok incoming
  | [.name name], v => .ok (Value.put name incoming v)
  | .name name :: steps, v => do
    let v := v.forceTable
    let inner ← putAlong incoming steps ((v.member? (foldName name)).getD .nothing)
    return v.withMembers (Value.putMember (foldName name) inner v.members)
  | .subscript index :: steps, v => do
    let v := v.forceArray
    let place ← placeOf index v.items.length
    let items ← changeItem place (putAlong incoming steps) v.items
    return v.withItems items

/-- Put a value at a key. -/
def Key.put (key : Key) (incoming root : Value) : Except SubscriptFault Value :=
  putAlong incoming (.name key.first :: key.steps) root

/-- Put the members of a file over a root: a name that reads as a key is one. -/
def putLayer : List (String × Value) → Value → Except SubscriptFault Value
  | [], root => .ok root
  | (name, v) :: more, root => do
    let root ← match Key.parse? name with
      | some key => key.put v root
      | none => .ok (Value.put name v root)
    putLayer more root

end RonWorkbench.Settings
