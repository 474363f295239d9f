import RonWorkbench.Shell.Word

/-!
# Reading scripts

A script is read one line at a time (`Script.next?`), where a line is what is run before the next is
looked at: a compound command that goes on over several lines is one. So what stands before a fault
is still run.
-/

namespace RonWorkbench.Shell

namespace Reading

/-! ### Tokens -/

/-- The words that have a meaning of their own where a command can begin. -/
def reservedWords : List String :=
  ["if", "then", "else", "elif", "fi", "while", "until", "for", "do", "done", "case", "esac", "in",
    "\x7b", "\x7d", "!"]

/-- The reserved words that end a list of commands. -/
def closingWords : List String :=
  ["then", "else", "elif", "fi", "do", "done", "esac", "\x7d"]

/-- The unquoted word that stands here, if it is one. -/
def peekWord : Reading String := do
  skipBlanks
  let s ← rest
  let word := s.takeWhile fun c ↦ !isMeta c
  return if word.any isQuoting then "" else String.ofList word

/-- The operators, the longer before those that they begin with. -/
def operators : List String :=
  [";;", "&&", "||", ";", "&", "|", "(", ")"]

/-- How a fault names what stands here. -/
def describeNext : Reading String := do
  skipBlanks
  match ← rest with
  | [] => return "end of file"
  | '\n' :: _ => return "newline"
  | s =>
    match operators.find? fun o ↦ o.toList.isPrefixOf s with
    | some o => return s!"\"{o}\""
    | none =>
      if s.head? = some '<' ∨ s.head? = some '>' then
        return "redirection"
      let word ← peekWord
      return if reservedWords.contains word then s!"\"{word}\"" else "word"

/-- A fault in what stands here; a line end stands on the line behind it. -/
def failAtToken {α : Type} (cause : SyntaxCause) : Reading α := do
  skipBlanks
  if (← rest).head? = some '\n' then
    skip 1
  fail cause

/-- What stands here cannot stand here. -/
def failHere {α : Type} (wanted : Option String) : Reading α := do
  let token ← describeNext
  failAtToken (.unexpected token wanted)

/-- An operator stands here, and no longer one. -/
def atOperator (operator : String) : Reading Bool := do
  skipBlanks
  let s ← rest
  return (operators.find? fun o ↦ o.toList.isPrefixOf s) == some operator

/-- Skip an operator if it stands here. -/
def takeOperator (operator : String) : Reading Bool := do
  if ← atOperator operator then
    skip operator.length
    return true
  else
    return false

/-- Skip a reserved word, which has to stand here. -/
def expectWord (word : String) : Reading Unit := do
  if (← peekWord) = word then skip word.length else failHere (some s!"\"{word}\"")

/-- Skip an operator, which has to stand here. -/
def expectOperator (operator : String) : Reading Unit := do
  if !(← takeOperator operator) then
    failHere (some s!"\"{operator}\"")

/-- The end of a list of commands is here. -/
def atListEnd : Reading Bool := do
  skipBlanks
  if (← rest).isEmpty then
    return true
  if (← atOperator ")") || (← atOperator ";;") then
    return true
  return closingWords.contains (← peekWord)

/-! ### Redirections -/

/-- The sign of a redirection that a string begins with: what it does and its length. -/
def redirection? (s : Str) : Option (Redirection × Nat) :=
  match s with
  | '<' :: '<' :: '-' :: _ => some (.document, 3)
  | '<' :: '<' :: _ => some (.document, 2)
  | '<' :: '&' :: _ | '>' :: '&' :: _ => some (.duplicate, 2)
  | '<' :: '>' :: _ => some (.update, 2)
  | '<' :: _ => some (.read, 1)
  | '>' :: '>' :: _ => some (.append, 2)
  | '>' :: '|' :: _ => some (.write, 2)
  | '>' :: _ => some (.write, 1)
  | _ => none

/-- The lines before the one that ends a document, and those behind it. -/
def documentLines (stripped : Bool) (ending : Str) : List Str → List Str × List Str
  | [] => ([], [])
  | line :: more =>
    let line := if stripped then line.dropWhile (· = '\t') else line
    if Str.dropNewline line = ending then
      ([], more)
    else
      let (body, behind) := documentLines stripped ending more
      (line :: body, behind)

/-- A document that stands in the script itself, from the next line on. -/
def readDocument (stripped : Bool) : Reading Word := do
  skipBlanks
  let s ← rest
  let written := s.takeWhile fun c ↦ !isMeta c
  if written.isEmpty then
    failHere none
  skip written.length
  let ending := written.filter fun c ↦ c ≠ '\'' ∧ c ≠ '"' ∧ c ≠ '\\'
  let s ← get
  let before := s.rest.takeWhile (· ≠ '\n')
  let (body, behind) := documentLines stripped ending (Str.lines (s.rest.drop (before.length + 1)))
  let after : Script := { s with rest := before ++ '\n' :: behind.flatten }
  if ending.length < written.length then
    set after
    return [.text true body.flatten]
  else
    set { s with rest := body.flatten }
    let parts ← readParts (← enough) .document
    set after
    return parts

/-- A redirection, if one stands here. -/
def readRedirect : Reading (Option Redirect) := do
  skipBlanks
  let s ← rest
  let digits := s.takeWhile Char.isDigit
  match redirection? (s.drop digits.length) with
  | none => return none
  | some (how, n) =>
    let standard := if (s.drop digits.length).head? = some '<' then 0 else 1
    let descriptor := (Str.nat? digits).getD standard
    skip (digits.length + n)
    match how with
    | .document => return some ⟨descriptor, how, ← readDocument (n = 3)⟩
    | _ =>
      match ← readWord with
      | some target => return some ⟨descriptor, how, target⟩
      | none => failHere none

/-- Redirections, as long as they stand here. -/
def readRedirects (fuel : Nat) : Reading (List Redirect) :=
  match fuel with
  | 0 => return []
  | fuel + 1 => do
    match ← readRedirect with
    | none => return []
    | some redirect => return redirect :: (← readRedirects fuel)

/-! ### Commands -/

/-- The name and the value of an assignment, if a word is one. -/
def assignment? (word : Word) : Option (Str × Word) :=
  match word with
  | .text false s :: more =>
    let name := s.takeWhile Arithmetic.inName
    match s.drop name.length with
    | '=' :: value =>
      if (name.head?.map Arithmetic.beginsName).getD false then
        some (name, if value.isEmpty then more else .text false value :: more)
      else
        none
    | _ => none
  | _ => none

/-- The name that a word is, if it is nothing but a name. -/
def plainName? (word : Word) : Option Str :=
  match word with
  | [.text false s] =>
    if (s.head?.map Arithmetic.beginsName).getD false && s.all Arithmetic.inName then some s
    else none
  | _ => none

/-- A simple command's assignments, words and redirections. -/
structure Simple where
  assignments : List (Str × Word) := []
  words : List Word := []
  redirects : List Redirect := []

/-- The elements of a simple command, added to those before. -/
def readSimple (fuel : Nat) (soFar : Simple) : Reading Simple :=
  match fuel with
  | 0 => return soFar
  | fuel + 1 => do
    match ← readRedirect with
    | some redirect =>
      readSimple fuel { soFar with redirects := soFar.redirects ++ [redirect] }
    | none =>
      match ← readWord with
      | none => return soFar
      | some word =>
        match if soFar.words.isEmpty then assignment? word else none with
        | some assignment =>
          readSimple fuel { soFar with assignments := soFar.assignments ++ [assignment] }
        | none =>
          let next := { soFar with words := soFar.words ++ [word] }
          if next.words.length = 1 ∧ next.assignments.isEmpty ∧ (← atOperator "(") then
            return next
          else
            readSimple fuel next

mutual

/-- A command. -/
def readCommand (fuel : Nat) : Reading Command :=
  match fuel with
  | 0 => failHere none
  | fuel + 1 => do
    skipBlanks
    let line := (← get).line
    if ← takeOperator "(" then
      let body ← readList fuel
      expectOperator ")"
      return ← readBehind fuel line (.subshell body)
    match ← peekWord with
    | "\x7b" =>
      skip 1
      let body ← readList fuel
      expectWord "\x7d"
      readBehind fuel line body
    | "if" =>
      skip 2
      let command ← readChoice fuel
      readBehind fuel line command
    | "while" =>
      skip 5
      let command ← readLoop fuel false
      readBehind fuel line command
    | "until" =>
      skip 5
      let command ← readLoop fuel true
      readBehind fuel line command
    | "for" =>
      skip 3
      let command ← readEach fuel
      readBehind fuel line command
    | "case" =>
      skip 4
      let command ← readSelect fuel
      readBehind fuel line command
    | word =>
      if reservedWords.contains word then
        failHere none
      let simple ← readSimple (← enough) {}
      match simple.words with
      | [name] =>
        if ← atOperator "(" then
          match plainName? name, simple.redirects with
          | some name, [] =>
            expectOperator "("
            expectOperator ")"
            skipBreaks
            return .define name (← readCommand fuel)
          | _, _ => failHere none
      | _ => pure ()
      if simple.words.isEmpty && simple.assignments.isEmpty && simple.redirects.isEmpty then
        failHere none
      return .simple line simple.assignments simple.words simple.redirects

/-- The redirections of a compound command. -/
def readBehind (fuel line : Nat) (command : Command) : Reading Command :=
  match fuel with
  | 0 => return command
  | fuel + 1 => do
    let redirects ← readRedirects fuel
    return if redirects.isEmpty then command else .redirected line command redirects

/-- Condition, body and alternatives of a choice, up to its end. -/
def readChoice (fuel : Nat) : Reading Command :=
  match fuel with
  | 0 => failHere none
  | fuel + 1 => do
    let condition ← readList fuel
    expectWord "then"
    let body ← readList fuel
    match ← peekWord with
    | "elif" =>
      skip 4
      return .choose condition body (← readChoice fuel)
    | "else" =>
      skip 4
      let otherwise ← readList fuel
      expectWord "fi"
      return .choose condition body otherwise
    | _ =>
      expectWord "fi"
      return .choose condition body (.sequence [])

/-- Condition and body of a loop. -/
def readLoop (fuel : Nat) (untilSuccess : Bool) : Reading Command :=
  match fuel with
  | 0 => failHere none
  | fuel + 1 => do
    let condition ← readList fuel
    expectWord "do"
    let body ← readList fuel
    expectWord "done"
    return .loop untilSuccess condition body

/-- Name, words and body of a loop over words. -/
def readEach (fuel : Nat) : Reading Command :=
  match fuel with
  | 0 => failHere none
  | fuel + 1 => do
    let name ← peekWord
    if (plainName? [.text false name.toList]).isNone then
      failAtToken .badLoopName
    skip name.length
    skipBreaks
    let words ← if (← peekWord) = "in" then do
        skip 2
        let simple ← readSimple (← enough) {}
        pure (some (simple.assignments.map (fun a ↦ .text false (a.1 ++ ['=']) :: a.2)
          ++ simple.words))
      else
        pure none
    let _ ← takeOperator ";"
    skipBreaks
    expectWord "do"
    let body ← readList fuel
    expectWord "done"
    return .each name.toList words body

/-- Word and branches of a selection. -/
def readSelect (fuel : Nat) : Reading Command :=
  match fuel with
  | 0 => failHere none
  | fuel + 1 => do
    match ← readWord with
    | none => failHere (some "word")
    | some word =>
      skipBreaks
      expectWord "in"
      let branches ← readBranches fuel
      expectWord "esac"
      return .select word branches

/-- The branches of a selection. -/
def readBranches (fuel : Nat) : Reading (List (List Word × Command)) :=
  match fuel with
  | 0 => failHere none
  | fuel + 1 => do
    skipBreaks
    if (← peekWord) = "esac" then
      return []
    let _ ← takeOperator "("
    let patterns ← readPatterns fuel
    expectOperator ")"
    skipBreaks
    let body ← if ← atListEnd then pure (.sequence []) else readList fuel
    if ← takeOperator ";;" then
      return (patterns, body) :: (← readBranches fuel)
    else
      skipBreaks
      return [(patterns, body)]

/-- The patterns of a branch. -/
def readPatterns (fuel : Nat) : Reading (List Word) :=
  match fuel with
  | 0 => failHere none
  | fuel + 1 => do
    match ← readWord with
    | none => failHere none
    | some word =>
      if ← takeOperator "|" then
        return word :: (← readPatterns fuel)
      else
        return [word]

/-- Commands that hand on what they print. -/
def readPipe (fuel : Nat) : Reading (List Command) :=
  match fuel with
  | 0 => failHere none
  | fuel + 1 => do
    let first ← readCommand fuel
    if ← takeOperator "|" then
      skipBreaks
      return first :: (← readPipe fuel)
    else
      return [first]

/-- A pipe, perhaps with its success reversed. -/
def readPipeline (fuel : Nat) : Reading Command :=
  match fuel with
  | 0 => failHere none
  | fuel + 1 => do
    if (← peekWord) = "!" then
      skip 1
      return .not (← readPipeline fuel)
    match ← readPipe fuel with
    | [command] => return command
    | commands => return .pipe commands

/-- Commands joined by success or failure, after the first. -/
def readJoined (fuel : Nat) (first : Command) : Reading Command :=
  match fuel with
  | 0 => failHere none
  | fuel + 1 => do
    if ← takeOperator "&&" then
      skipBreaks
      let second ← readPipeline fuel
      readJoined fuel (.both first second)
    else if ← takeOperator "||" then
      skipBreaks
      let second ← readPipeline fuel
      readJoined fuel (.either first second)
    else
      return first

/-- Commands joined by success or failure, and whether the list can go on behind them. -/
def readItem (fuel : Nat) : Reading (Command × Bool) :=
  match fuel with
  | 0 => failHere none
  | fuel + 1 => do
    let first ← readPipeline fuel
    let command ← readJoined fuel first
    if ← takeOperator "&" then
      return (.background command, true)
    else
      let separated ← takeOperator ";"
      skipBlanks
      return (command, separated || (← rest).head? = some '\n')

/-- A list of commands within a compound one. -/
def readList (fuel : Nat) : Reading Command :=
  match fuel with
  | 0 => failHere none
  | fuel + 1 => do
    skipBreaks
    if (← rest).isEmpty then
      return .sequence []
    else
      return .sequence (← readItems fuel)

/-- The commands of a list, up to its end. -/
def readItems (fuel : Nat) : Reading (List Command) :=
  match fuel with
  | 0 => failHere none
  | fuel + 1 => do
    let (first, separated) ← readItem fuel
    skipBreaks
    if ← atListEnd then
      return [first]
    else if separated then
      return first :: (← readItems fuel)
    else
      failHere none

end

/-- The commands of a line. -/
def readLineItems (fuel : Nat) : Reading (List Command) :=
  match fuel with
  | 0 => failHere none
  | fuel + 1 => do
    let (first, separated) ← readItem fuel
    skipBlanks
    match ← rest with
    | [] => return [first]
    | '\n' :: _ =>
      skip 1
      return [first]
    | _ => if separated then return first :: (← readLineItems fuel) else failHere none

/-- The next line, if there is one. -/
def readNext : Reading (Option Command) := do
  skipBreaks
  if (← rest).isEmpty then
    return none
  else
    return some (.sequence (← readLineItems (← enough)))

end Reading

/-- The next line of a script and what is left of the script, if there is one. -/
def Script.next? (script : Script) : Except SyntaxFault (Option Command × Script) :=
  Reading.readNext.run script

end RonWorkbench.Shell
