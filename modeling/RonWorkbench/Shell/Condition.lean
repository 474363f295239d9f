import RonWorkbench.Files
import RonWorkbench.Shell.Basic

/-!
# Conditions

What `test` and `[` decide: whether a string is empty, how strings and numbers compare, and what a
path leads to. Conditions are joined by `-a` and `-o`, reversed by `!`, and grouped by parentheses.
-/

namespace RonWorkbench.Shell.Condition

/-- Where conditions on files are decided. -/
structure Scene where
  here : Path
  files : Files

/-- A number in a condition. -/
def number (s : Str) : Except Str Int :=
  match Str.int? (s.dropWhile (· = ' ')) with
  | some n => .ok n
  | none => .error ("Illegal number: ".toList ++ s)

/-- What a path leads to, if it leads anywhere. -/
def entryAt? (scene : Scene) (name : Str) : Option Entry :=
  match scene.files.resolve scene.here (Str.text name) with
  | .error _ => none
  | .ok path => if scene.files.isDirectory path then some .directory else scene.files.get? path

/-- A condition on one string. -/
def unary? (scene : Scene) (operator : String) (s : Str) : Option Bool :=
  match operator with
  | "-n" => some !s.isEmpty
  | "-z" => some s.isEmpty
  | "-e" | "-r" | "-w" => some (entryAt? scene s).isSome
  | "-f" => some (match entryAt? scene s with
    | some (.file _) => true
    | _ => false)
  | "-d" | "-x" => some (entryAt? scene s == some .directory)
  | "-s" => some (match entryAt? scene s with
    | some (.file content) => !content.isEmpty
    | some .directory => true
    | none => false)
  | "-L" | "-h" | "-p" | "-S" | "-b" | "-c" | "-t" => some false
  | _ => none

/-- A condition on two strings. -/
def binary? (operator : String) (a b : Str) : Option (Except Str Bool) :=
  let compare (p : Int → Int → Bool) : Option (Except Str Bool) :=
    some (do return p (← number a) (← number b))
  match operator with
  | "=" => some (.ok (a == b))
  | "!=" => some (.ok (a != b))
  | "<" => some (.ok (decide (String.ofList a < String.ofList b)))
  | ">" => some (.ok (decide (String.ofList b < String.ofList a)))
  | "-eq" => compare (· == ·)
  | "-ne" => compare (· != ·)
  | "-lt" => compare (decide <| · < ·)
  | "-le" => compare (decide <| · ≤ ·)
  | "-gt" => compare (decide <| · > ·)
  | "-ge" => compare (decide <| · ≥ ·)
  | _ => none

/-- A word that is no operator. -/
def unexpected (word : Str) : Str :=
  word ++ ": unexpected operator".toList

mutual

/-- A single condition and the words behind it. -/
def single (scene : Scene) (fuel : Nat) (words : List Str) : Except Str (Bool × List Str) :=
  match fuel with
  | 0 => .error "argument expected".toList
  | fuel + 1 =>
    match words with
    | [] => .error "argument expected".toList
    | ['!'] :: more => do
      let (b, rest) ← single scene fuel more
      return (!b, rest)
    | ['('] :: more => do
      let (b, rest) ← disjunction scene fuel more
      match rest with
      | [')'] :: rest => return (b, rest)
      | _ => throw "closing paren expected".toList
    | [a] => .ok (!a.isEmpty, [])
    | a :: op :: more =>
      match more with
      | b :: rest =>
        match binary? (String.ofList op) a b with
        | some r => do return (← r, rest)
        | none => simple scene a op more
      | [] => simple scene a op []

/-- A condition on one string, or a string that has to be there, at the start of words. -/
def simple (scene : Scene) (a op : Str) (more : List Str) : Except Str (Bool × List Str) :=
  match unary? scene (String.ofList a) op with
  | some b => .ok (b, more)
  | none => .ok (!a.isEmpty, op :: more)

/-- Conditions joined by `-a`. -/
def conjunction (scene : Scene) (fuel : Nat) (words : List Str) :
    Except Str (Bool × List Str) :=
  match fuel with
  | 0 => .error "argument expected".toList
  | fuel + 1 => do
    let (b, rest) ← single scene fuel words
    match rest with
    | ['-', 'a'] :: rest =>
      let (c, rest) ← conjunction scene fuel rest
      return (b && c, rest)
    | _ => return (b, rest)

/-- Conditions joined by `-o`. -/
def disjunction (scene : Scene) (fuel : Nat) (words : List Str) :
    Except Str (Bool × List Str) :=
  match fuel with
  | 0 => .error "argument expected".toList
  | fuel + 1 => do
    let (b, rest) ← conjunction scene fuel words
    match rest with
    | ['-', 'o'] :: rest =>
      let (c, rest) ← disjunction scene fuel rest
      return (b || c, rest)
    | _ => return (b, rest)

end

/-- A condition in any number of words. -/
def general (scene : Scene) (words : List Str) : Except Str Bool := do
  let (b, rest) ← disjunction scene (3 * words.length + 3) words
  match rest with
  | [] => return b
  | word :: _ => throw (unexpected word)

/-- Whether words hold as a condition; up to three words are read by their number. -/
def holds (scene : Scene) (words : List Str) : Except Str Bool :=
  match words with
  | [] => .ok false
  | [a] => .ok !a.isEmpty
  | [['!'], a] => .ok a.isEmpty
  | [op, a] =>
    match unary? scene (String.ofList op) a with
    | some b => .ok b
    | none =>
      if a = ['-', 'o'] then .ok !op.isEmpty
      else if a = ['-', 'a'] then .ok false
      else if (binary? (String.ofList a) [] []).isSome then
        .error (a ++ ": argument expected".toList)
      else .error (unexpected op)
  | [a, op, b] =>
    match binary? (String.ofList op) a b with
    | some r => r
    | none =>
      if op = ['-', 'a'] then .ok (!a.isEmpty && !b.isEmpty)
      else if op = ['-', 'o'] then .ok (!a.isEmpty || !b.isEmpty)
      else if a = ['!'] then (holds scene [op, b]).map not
      else if a = ['('] ∧ b = [')'] then .ok !op.isEmpty
      else .error (unexpected op)
  | words => general scene words

end RonWorkbench.Shell.Condition
