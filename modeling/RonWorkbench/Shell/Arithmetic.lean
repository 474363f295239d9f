import RonWorkbench.Bits
import RonWorkbench.Shell.Basic

/-!
# Arithmetic in scripts

Whole numbers of 64 bits with the usual operators. An expression is read into a tree by the
operators' levels, the higher binding tighter, and evaluated against the values of variables; an
assignment changes them.
-/

namespace RonWorkbench.Shell

/-- The operators between two operands. -/
inductive Operator
  | or
  | and
  | bitOr
  | bitXor
  | bitAnd
  | equal
  | unequal
  | atMost
  | atLeast
  | less
  | greater
  | shiftLeft
  | shiftRight
  | add
  | subtract
  | multiply
  | divide
  | remainder
  deriving Repr, DecidableEq

/-- An arithmetic expression. -/
inductive Arithmetic
  | number (n : Int)
  | name (name : Str)
  | negative (operand : Arithmetic)
  | complement (operand : Arithmetic)
  | not (operand : Arithmetic)
  | operation (operator : Operator) (left right : Arithmetic)
  | choose (condition yes no : Arithmetic)
  | assign (name : Str) (operator : Option Operator) (value : Arithmetic)

/-- Why an expression has no value. -/
inductive ArithmeticFault
  /-- An operand is missing. -/
  | noOperand
  /-- A closing parenthesis is missing. -/
  | noParenthesis
  /-- A colon is missing. -/
  | noColon
  /-- Something is left over. -/
  | surplus
  /-- A division by zero. -/
  | zeroDivisor
  /-- A variable holds no number. -/
  | notNumber (value : Str)

namespace Operator

/-- How the operators are written, the longer before those that they begin with, with levels. -/
def table : List (String × Operator × Nat) :=
  [("||", or, 1), ("&&", and, 2), ("==", equal, 6), ("!=", unequal, 6), ("<=", atMost, 7),
    (">=", atLeast, 7), ("<<", shiftLeft, 8), (">>", shiftRight, 8), ("|", bitOr, 3),
    ("^", bitXor, 4), ("&", bitAnd, 5), ("<", less, 7), (">", greater, 7), ("+", add, 9),
    ("-", subtract, 9), ("*", multiply, 10), ("/", divide, 10), ("%", remainder, 10)]

/-- The level of an operator can stand in an assignment. -/
def assigns (level : Nat) : Bool :=
  3 ≤ level && level ≤ 5 || 8 ≤ level

/-- The operator that a string begins with, its level and the rest. -/
def readSign? (s : Str) : Option (Operator × Nat × Str) :=
  table.findSome? fun (sign, operator, level) ↦
    if sign.toList.isPrefixOf s then some (operator, level, s.drop sign.length) else none

/-- The same, but not an operator that stands in an assignment. -/
def read? (s : Str) : Option (Operator × Nat × Str) :=
  (readSign? s).filter fun (_, level, rest) ↦ !(assigns level && rest.head? == some '=')

/-- A number as a signed word of 64 bits. -/
def wrap (n : Int) : Int :=
  Int.bmod n (Bits.wordCount 64)

/-- A truth value as a number. -/
def truth (b : Bool) : Int :=
  if b then 1 else 0

/-- Apply an operator to two words. -/
def apply (operator : Operator) (a b : Int) : Except ArithmeticFault Int :=
  let word (n : Int) : Nat := (n % Bits.wordCount 64).toNat
  match operator with
  | or => .ok (truth (a != 0 || b != 0))
  | and => .ok (truth (a != 0 && b != 0))
  | bitOr => .ok (wrap (word a ||| word b))
  | bitXor => .ok (wrap (word a ^^^ word b))
  | bitAnd => .ok (wrap (word a &&& word b))
  | equal => .ok (truth (a == b))
  | unequal => .ok (truth (a != b))
  | atMost => .ok (truth (a ≤ b))
  | atLeast => .ok (truth (b ≤ a))
  | less => .ok (truth (a < b))
  | greater => .ok (truth (b < a))
  | shiftLeft => .ok (wrap (a * Bits.wordCount (b % 64).toNat))
  | shiftRight => .ok (a / Bits.wordCount (b % 64).toNat)
  | add => .ok (wrap (a + b))
  | subtract => .ok (wrap (a - b))
  | multiply => .ok (wrap (a * b))
  | divide => if b = 0 then .error .zeroDivisor else .ok (wrap (a.tdiv b))
  | remainder => if b = 0 then .error .zeroDivisor else .ok (a.tmod b)

end Operator

namespace Arithmetic

/-- Skip blanks. -/
def skip (s : Str) : Str :=
  s.dropWhile fun c ↦ c = ' ' || c = '\t' || c = '\n'

/-- A byte that can begin a name. -/
def beginsName (c : Char) : Bool :=
  c.isAlpha || c = '_'

/-- A byte that can stand in a name. -/
def inName (c : Char) : Bool :=
  c.isAlphanum || c = '_'

/-- The value of a digit. -/
def digit (c : Char) : Nat :=
  if c.isDigit then c.toNat - '0'.toNat else c.toLower.toNat - 'a'.toNat + 10

/-- A number in a base. -/
def inBase (base : Nat) (digits : Str) : Int :=
  (digits.foldl (fun n c ↦ base * n + digit c) 0 : Nat)

/-- A number and the rest: hexadecimal after `0x`, octal after `0`. -/
def readNumber (s : Str) : Int × Str :=
  match s with
  | '0' :: 'x' :: rest =>
    let isHex (c : Char) : Bool := c.isDigit || ('a' ≤ c.toLower && c.toLower ≤ 'f')
    (inBase 16 (rest.takeWhile isHex), rest.dropWhile isHex)
  | '0' :: rest => (inBase 8 (rest.takeWhile Char.isDigit), rest.dropWhile Char.isDigit)
  | s => (inBase 10 (s.takeWhile Char.isDigit), s.dropWhile Char.isDigit)

/-- The assignment sign that a string begins with, and the rest. -/
def readAssignment? (s : Str) : Option (Option Operator × Str) :=
  match s with
  | '=' :: '=' :: _ => none
  | '=' :: rest => some (none, rest)
  | s =>
    match Operator.readSign? s with
    | some (operator, level, '=' :: rest) =>
      if Operator.assigns level then some (some operator, rest) else none
    | _ => none

mutual

/-- An operand. -/
def readOperand (fuel : Nat) (s : Str) : Except ArithmeticFault (Arithmetic × Str) :=
  match fuel with
  | 0 => .error .noOperand
  | fuel + 1 =>
    match skip s with
    | '(' :: rest => do
      let (e, rest) ← readWhole fuel rest
      match skip rest with
      | ')' :: rest => return (e, rest)
      | _ => throw .noParenthesis
    | '-' :: rest => do
      let (e, rest) ← readOperand fuel rest
      return (.negative e, rest)
    | '+' :: rest => readOperand fuel rest
    | '~' :: rest => do
      let (e, rest) ← readOperand fuel rest
      return (.complement e, rest)
    | '!' :: rest => do
      let (e, rest) ← readOperand fuel rest
      return (.not e, rest)
    | c :: rest =>
      if c.isDigit then
        let (n, rest) := readNumber (c :: rest)
        .ok (.number n, rest)
      else if beginsName c then
        .ok (.name ((c :: rest).takeWhile inName), (c :: rest).dropWhile inName)
      else
        .error .noOperand
    | [] => .error .noOperand

/-- Operators of at least a level, after their first operand. -/
def readOperators (fuel level : Nat) (left : Arithmetic) (s : Str) :
    Except ArithmeticFault (Arithmetic × Str) :=
  match fuel with
  | 0 => .error .noOperand
  | fuel + 1 =>
    match Operator.read? (skip s) with
    | some (operator, l, rest) =>
      if level ≤ l then do
        let (right, rest) ← readOperand fuel rest
        let (right, rest) ← readOperators fuel (l + 1) right rest
        readOperators fuel level (.operation operator left right) rest
      else
        .ok (left, s)
    | none => .ok (left, s)

/-- An expression without an assignment at its start. -/
def readChoice (fuel : Nat) (s : Str) : Except ArithmeticFault (Arithmetic × Str) :=
  match fuel with
  | 0 => .error .noOperand
  | fuel + 1 => do
    let (left, rest) ← readOperand fuel s
    let (e, rest) ← readOperators fuel 0 left rest
    match skip rest with
    | '?' :: rest => do
      let (yes, rest) ← readWhole fuel rest
      match skip rest with
      | ':' :: rest => do
        let (no, rest) ← readChoice fuel rest
        return (.choose e yes no, rest)
      | _ => throw .noColon
    | _ => return (e, rest)

/-- An expression. -/
def readWhole (fuel : Nat) (s : Str) : Except ArithmeticFault (Arithmetic × Str) :=
  match fuel with
  | 0 => .error .noOperand
  | fuel + 1 =>
    let s := skip s
    let name := s.takeWhile inName
    if (name.head?.map beginsName).getD false then
      match readAssignment? (skip (s.drop name.length)) with
      | some (operator, rest) => do
        let (e, rest) ← readWhole fuel rest
        return (.assign name operator e, rest)
      | none => readChoice fuel s
    else
      readChoice fuel s

end

/-- The expression that a string holds. -/
def read (s : Str) : Except ArithmeticFault Arithmetic := do
  let (e, rest) ← readWhole (8 * s.length + 8) s
  if (skip rest).isEmpty then return e else throw .surplus

/-- The number that a variable holds; one without a value holds zero. -/
def numberOf (value : Str) : Except ArithmeticFault Int :=
  if value.isEmpty then
    .ok 0
  else
    match Str.int? value with
    | some n => .ok n
    | none => .error (.notNumber value)

/-- The value of an expression and the variables that it leaves. -/
def eval {σ : Type} (look : σ → Str → Str) (put : σ → Str → Str → σ) (s : σ) :
    Arithmetic → Except ArithmeticFault (Int × σ)
  | number n => .ok (Operator.wrap n, s)
  | name x => do return (← numberOf (look s x), s)
  | negative e => do
    let (n, s) ← eval look put s e
    return (Operator.wrap (-n), s)
  | complement e => do
    let (n, s) ← eval look put s e
    return (-n - 1, s)
  | not e => do
    let (n, s) ← eval look put s e
    return (Operator.truth (n == 0), s)
  | operation .and a b => do
    let (m, s) ← eval look put s a
    if m = 0 then
      return (0, s)
    let (n, s) ← eval look put s b
    return (Operator.truth (n != 0), s)
  | operation .or a b => do
    let (m, s) ← eval look put s a
    if m ≠ 0 then
      return (1, s)
    let (n, s) ← eval look put s b
    return (Operator.truth (n != 0), s)
  | operation operator a b => do
    let (m, s) ← eval look put s a
    let (n, s) ← eval look put s b
    return (← operator.apply m n, s)
  | choose c a b => do
    let (n, s) ← eval look put s c
    if n ≠ 0 then eval look put s a else eval look put s b
  | assign x operator e => do
    let (n, s) ← eval look put s e
    let n ← match operator with
      | some operator => do operator.apply (← numberOf (look s x)) n
      | none => pure n
    return (n, put s x (Str.ofInt n))

end Arithmetic

end RonWorkbench.Shell
