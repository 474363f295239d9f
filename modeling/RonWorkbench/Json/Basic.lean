import RonWorkbench.Bits

/-!
# JSON values

Values keep what a reader of settings has to tell apart: a number written without fraction and
exponent is an integer, any other is a float, and an object keeps its members in the order of the
text, repetitions included (`Json.member?` takes the last).
-/

namespace RonWorkbench

/-- A JSON value. -/
inductive Json
  | null
  | bool (value : Bool)
  | integer (value : Int)
  | float (value : Float)
  | string (value : String)
  | array (items : List Json)
  | object (members : List (String × Json))
  deriving Inhabited, Repr

namespace Json

/-- A natural number as a value. -/
def nat (n : Nat) : Json :=
  integer n

/-- The last of the members with a key. -/
def lastMember? (key : String) : List (String × Json) → Option Json
  | [] => none
  | (k, v) :: more => (lastMember? key more).or (if k = key then some v else none)

/-- The member of an object that a key stands for: of several, the last. -/
def member? (key : String) : Json → Option Json
  | object members => lastMember? key members
  | _ => none

/-- A count below a bound. -/
def natBelow? (bound : Nat) : Json → Option Nat
  | integer n => if 0 ≤ n ∧ n < bound then some n.toNat else none
  | _ => none

/-- A 64-bit count. -/
def nat? (j : Json) : Option Nat :=
  natBelow? (Bits.wordCount 64) j

/-- A truth value. -/
def bool? : Json → Option Bool
  | bool b => some b
  | _ => none

/-- A text. -/
def string? : Json → Option String
  | string s => some s
  | _ => none

/-- The items of an array. -/
def items? : Json → Option (List Json)
  | array items => some items
  | _ => none

end Json

end RonWorkbench
