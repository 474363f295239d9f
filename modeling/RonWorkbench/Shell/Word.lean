import RonWorkbench.Shell.Arithmetic

/-!
# Reading words

What is left of a script and the number of its line are a state (`Script`) that reading changes
(`Reading`); it fails with a fault that says which token was met and, where only one would do, which
was wanted. This module reads words with all that stands in them: quotes, parameters, expressions,
and scripts, which are kept as they are written.

Reading descends with a measure that the length of the script bounds.
-/

namespace RonWorkbench.Shell

/-- Why a script cannot be read. -/
inductive SyntaxCause
  /-- A token where it cannot stand, and the one that was wanted. -/
  | unexpected (token : String) (wanted : Option String)
  /-- A quote without its end. -/
  | openQuote
  /-- A substitution without its end. -/
  | openSubstitution
  /-- An arithmetic expression without its end. -/
  | openExpression
  /-- A parameter without its closing brace. -/
  | openBrace
  /-- No parameter between braces. -/
  | badSubstitution
  /-- No name behind `for`. -/
  | badLoopName
  deriving Repr, DecidableEq

/-- A fault with its line. -/
structure SyntaxFault where
  line : Nat
  cause : SyntaxCause
  deriving Repr, DecidableEq

/-- The fault in words. -/
def SyntaxCause.message : SyntaxCause → String
  | unexpected token none => s!"Syntax error: {token} unexpected"
  | unexpected token (some wanted) => s!"Syntax error: {token} unexpected (expecting {wanted})"
  | openQuote => "Syntax error: Unterminated quoted string"
  | openSubstitution => "Syntax error: EOF in backquote substitution"
  | openExpression => "Syntax error: Missing '))'"
  | openBrace => "Syntax error: Missing '\x7d'"
  | badSubstitution => "Bad substitution"
  | badLoopName => "Syntax error: Bad for loop variable"

/-- What is left of a script, and the number of its next line. -/
structure Script where
  rest : Str
  line : Nat := 1

/-- A step of reading. -/
abbrev Reading := StateT Script (Except SyntaxFault)

namespace Reading

/-! ### Bytes -/

/-- A fault at the place that reading has come to. -/
def fail {α : Type} (cause : SyntaxCause) : Reading α := do
  throw ⟨(← get).line, cause⟩

/-- The rest of the script. -/
def rest : Reading Str := do
  return (← get).rest

/-- Go on by some bytes. -/
def skip (n : Nat) : Reading Unit :=
  modify fun s ↦
    { rest := s.rest.drop n, line := s.line + (s.rest.take n).count '\n' }

/-- The script behind blanks and a comment, and behind line ends too if they are to be skipped. -/
def behindBlanks (lines : Bool) : Bool → Nat → Str → Script
  | _, line, [] => ⟨[], line⟩
  | true, line, c :: rest =>
    if c ≠ '\n' then
      behindBlanks lines true line rest
    else if lines then
      behindBlanks lines false (line + 1) rest
    else
      ⟨c :: rest, line⟩
  | false, line, '\\' :: '\n' :: rest => behindBlanks lines false (line + 1) rest
  | false, line, c :: rest =>
    if c = ' ' ∨ c = '\t' then
      behindBlanks lines false line rest
    else if c = '#' then
      behindBlanks lines true line rest
    else if c = '\n' ∧ lines then
      behindBlanks lines false (line + 1) rest
    else
      ⟨c :: rest, line⟩

/-- Skip blanks and a comment. -/
def skipBlanks : Reading Unit :=
  modify fun s ↦ behindBlanks false false s.line s.rest

/-- Skip blanks, comments and line ends. -/
def skipBreaks : Reading Unit :=
  modify fun s ↦ behindBlanks true false s.line s.rest

/-- A byte that ends an unquoted word. -/
def isMeta (c : Char) : Bool :=
  c = ' ' || c = '\t' || c = '\n' || c = ';' || c = '&' || c = '|' || c = '<' || c = '>'
    || c = '(' || c = ')'

/-- A byte that quotes or stands for something else. -/
def isQuoting (c : Char) : Bool :=
  c = '\'' || c = '"' || c = '\\' || c = '$' || c = '`'

/-! ### Words -/

/-- What surrounds the parts of a word. -/
inductive Surrounding
  | bare
  | quotes
  | braces (quoted : Bool)
  | document
  deriving DecidableEq

/-- What is read within the surrounding counts as quoted. -/
def Surrounding.quoted : Surrounding → Bool
  | bare => false
  | quotes | document => true
  | braces quoted => quoted

/-- Put text before parts. -/
def addText (quoted : Bool) (s : Str) : List Part → List Part
  | .text q t :: more =>
    if q = quoted then .text q (s ++ t) :: more else .text quoted s :: .text q t :: more
  | parts => .text quoted s :: parts

/-- The part stands for all arguments, each a word of its own. -/
def isAllArguments : Part → Bool
  | .parameter true ['@'] .value _ => true
  | _ => false

/-- The parts between quotes; they make a word, even an empty one, unless arguments decide. -/
def quotedParts (inside : List Part) : List Part :=
  if inside.any isAllArguments then inside else addText true [] inside

/-- A state of quoting. -/
inductive Quoting
  | none
  | single
  | double

/-- What stands before the parenthesis that closes some open ones, and what stands behind it. -/
def balanced : Quoting → Nat → Str → Option (Str × Str)
  | _, _, [] => none
  | .single, depth, c :: rest =>
    (balanced (if c = '\'' then .none else .single) depth rest).map fun r ↦ (c :: r.1, r.2)
  | quoting, depth, '\\' :: c :: rest =>
    (balanced quoting depth rest).map fun r ↦ ('\\' :: c :: r.1, r.2)
  | .double, depth, c :: rest =>
    (balanced (if c = '"' then .none else .double) depth rest).map fun r ↦ (c :: r.1, r.2)
  | .none, depth, c :: rest =>
    if c = ')' ∧ depth = 0 then
      some ([], rest)
    else
      let depth := if c = '(' then depth + 1 else if c = ')' then depth - 1 else depth
      let quoting : Quoting := if c = '\'' then .single else if c = '"' then .double else .none
      (balanced quoting depth rest).map fun r ↦ (c :: r.1, r.2)

/-- What stands between backquotes, with its escapes undone, and what stands behind. -/
def backquoted : Str → Option (Str × Str)
  | [] => none
  | '\\' :: c :: rest =>
    (backquoted rest).map fun r ↦
      if c = '`' ∨ c = '\\' ∨ c = '$' then (c :: r.1, r.2) else ('\\' :: c :: r.1, r.2)
  | c :: rest => if c = '`' then some ([], rest) else (backquoted rest).map fun r ↦ (c :: r.1, r.2)

/-- What stands before the doubled parenthesis that closes an expression, and what stands behind. -/
def expression : Nat → Str → Option (Str × Str)
  | _, [] => none
  | 0, ')' :: ')' :: rest => some ([], rest)
  | depth, c :: rest =>
    let depth := if c = '(' then depth + 1 else if c = ')' then depth - 1 else depth
    (expression depth rest).map fun r ↦ (c :: r.1, r.2)

/-- The parameter's name that a string begins with, and the rest. -/
def readName (s : Str) : Str × Str :=
  match s with
  | [] => ([], [])
  | c :: rest =>
    if Arithmetic.beginsName c then
      (s.takeWhile Arithmetic.inName, s.dropWhile Arithmetic.inName)
    else if c.isDigit || "@*#?-$!".toList.contains c then
      ([c], rest)
    else
      ([], s)

/-- The use of a parameter that stands behind its name, with the number of bytes that say it. -/
def readUse? (s : Str) : Option (Use × Nat) :=
  match s with
  | ':' :: '-' :: _ => some (.default true, 2)
  | ':' :: '=' :: _ => some (.assign true, 2)
  | ':' :: '?' :: _ => some (.require true, 2)
  | ':' :: '+' :: _ => some (.instead true, 2)
  | '-' :: _ => some (.default false, 1)
  | '=' :: _ => some (.assign false, 1)
  | '?' :: _ => some (.require false, 1)
  | '+' :: _ => some (.instead false, 1)
  | '%' :: '%' :: _ => some (.cutEnd true, 2)
  | '%' :: _ => some (.cutEnd false, 1)
  | '#' :: '#' :: _ => some (.cutStart true, 2)
  | '#' :: _ => some (.cutStart false, 1)
  | _ => none

/-- The name between braces; one with more than one digit is allowed there. -/
def readBracedName (s : Str) : Str × Str :=
  match s with
  | c :: _ =>
    if c.isDigit then (s.takeWhile Char.isDigit, s.dropWhile Char.isDigit) else readName s
  | [] => ([], [])

mutual

/-- The parts of a word up to the end of what surrounds them. -/
def readParts (fuel : Nat) (around : Surrounding) : Reading (List Part) :=
  match fuel with
  | 0 => fail .openQuote
  | fuel + 1 => do
    match ← rest with
    | [] =>
      match around with
      | .bare | .document => return []
      | .quotes => fail .openQuote
      | .braces _ => fail .openBrace
    | '\\' :: more => readEscape fuel around more
    | '\'' :: more =>
      if around.quoted then
        readPlain fuel around '\''
      else
        let inside := more.takeWhile (· ≠ '\'')
        if inside.length = more.length then
          fail .openQuote
        else
          skip (inside.length + 2)
          return addText true inside (← readParts fuel around)
    | '"' :: _ =>
      match around with
      | .quotes =>
        skip 1
        return []
      | .document => readPlain fuel around '"'
      | .bare | .braces _ =>
        skip 1
        let inside ← readParts fuel .quotes
        return quotedParts inside ++ (← readParts fuel around)
    | '$' :: more =>
      skip 1
      match ← readDollar fuel around.quoted more with
      | some part => return part :: (← readParts fuel around)
      | none => return addText around.quoted ['$'] (← readParts fuel around)
    | '`' :: more =>
      match backquoted more with
      | none => fail .openSubstitution
      | some (source, after) =>
        skip (more.length - after.length + 1)
        return .output around.quoted source :: (← readParts fuel around)
    | c :: _ =>
      match around with
      | .bare => if isMeta c then return [] else readPlain fuel around c
      | .braces _ =>
        if c = '\x7d' then
          skip 1
          return []
        else
          readPlain fuel around c
      | .quotes | .document => readPlain fuel around c

/-- A byte that stands for itself. -/
def readPlain (fuel : Nat) (around : Surrounding) (c : Char) : Reading (List Part) :=
  match fuel with
  | 0 => fail .openQuote
  | fuel + 1 => do
    skip 1
    return addText around.quoted [c] (← readParts fuel around)

/-- What follows a backslash. -/
def readEscape (fuel : Nat) (around : Surrounding) (more : Str) : Reading (List Part) :=
  match fuel with
  | 0 => fail .openQuote
  | fuel + 1 => do
    match more with
    | [] =>
      skip 1
      return addText true ['\\'] (← readParts fuel around)
    | c :: _ =>
      skip 2
      if c = '\n' then
        readParts fuel around
      else if !around.quoted || c = '$' || c = '`' || c = '\\'
          || (c = '"' && around != .document) || (c = '\x7d' && around == .braces true) then
        return addText true [c] (← readParts fuel around)
      else
        return addText true ['\\', c] (← readParts fuel around)

/-- What follows a dollar sign, if it stands for something. -/
def readDollar (fuel : Nat) (quoted : Bool) (more : Str) : Reading (Option Part) :=
  match fuel with
  | 0 => fail .openQuote
  | fuel + 1 => do
    match more with
    | '{' :: inside =>
      skip 1
      readBraces fuel quoted inside
    | '(' :: '(' :: inside =>
      match expression 0 inside with
      | none => fail .openExpression
      | some (source, after) =>
        skip (inside.length - after.length + 2)
        let outer ← get
        set { rest := source, line := outer.line : Script }
        let parts ← readParts fuel .document
        set outer
        return some (.arithmetic quoted parts)
    | '(' :: inside =>
      match balanced .none 0 inside with
      | none => fail (.unexpected "end of file" (some "\")\""))
      | some (source, after) =>
        skip (inside.length - after.length + 1)
        return some (.output quoted source)
    | _ =>
      let (name, _) := readName more
      if name.isEmpty then
        return none
      else
        skip name.length
        return some (.parameter quoted name .value [])

/-- A parameter between braces. -/
def readBraces (fuel : Nat) (quoted : Bool) (inside : Str) : Reading (Option Part) :=
  match fuel with
  | 0 => fail .openBrace
  | fuel + 1 => do
    let (long, afterLong) := readBracedName (inside.drop 1)
    if inside.head? = some '#' ∧ !long.isEmpty ∧ afterLong.head? = some '\x7d' then
      skip (long.length + 2)
      return some (.parameter quoted long .length [])
    let (name, after) := readBracedName inside
    if name.isEmpty then
      fail (if inside.isEmpty then .openBrace else .badSubstitution)
    skip name.length
    if after.head? = some '\x7d' then
      skip 1
      return some (.parameter quoted name .value [])
    match readUse? after with
    | none => if after.isEmpty then fail .openBrace else fail .badSubstitution
    | some (use, n) =>
      skip n
      let word ← readParts fuel (.braces quoted)
      return some (.parameter quoted name use word)

end

/-- A measure that reading cannot use up. -/
def enough : Reading Nat := do
  return 4 * (← rest).length + 16

/-- A word, if one stands here. -/
def readWord : Reading (Option Word) := do
  skipBlanks
  match ← rest with
  | [] => return none
  | c :: _ =>
    if isMeta c then
      return none
    else
      return some (← readParts (← enough) .bare)

end Reading

end RonWorkbench.Shell
