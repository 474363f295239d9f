import RonWorkbench.Shell.Pattern
import RonWorkbench.Shell.State

/-!
# Words and their values

A word's parts are replaced by their values, which gives glyphs: bytes of which it is known whether
they were quoted and whether a field may end at them (`Glyph`). The glyphs are split into fields,
and a field that is a pattern is replaced by the paths that it matches.

What a script prints takes a run of the script, which is a parameter here.
-/

namespace RonWorkbench.Shell

/-- A byte of a word with what is known of it, or a mark between bytes. -/
inductive Glyph
  /-- A byte; it may have been quoted, and a field may end at it. -/
  | byte (c : Char) (quoted splits : Bool)
  /-- Quotes stood here, so there is a field. -/
  | mark
  /-- A field ends here. -/
  | cut
  deriving Repr, DecidableEq

namespace Glyph

/-- The bytes of glyphs; fields are set apart by blanks. -/
def bytes (glyphs : List Glyph) : Str :=
  glyphs.filterMap fun
    | byte c _ _ => some c
    | mark => none
    | cut => some ' '

/-- Glyphs as a pattern. -/
def pattern (glyphs : List Glyph) : Pattern :=
  Pattern.ofBytes (glyphs.filterMap fun
    | byte c quoted _ => some (c, quoted)
    | _ => none)

/-- The glyphs of a value. -/
def ofValue (quoted : Bool) (value : Str) : List Glyph :=
  let body := value.map fun c ↦ byte c quoted !quoted
  if quoted then mark :: body else body

/-- The glyphs of text as it stands; fields end at it only where it stands for a value. -/
def ofText (splits quoted : Bool) (s : Str) : List Glyph :=
  let body := s.map fun c ↦ byte c quoted (splits && !quoted)
  if quoted then mark :: body else body

/-- Set lists of glyphs apart as fields. -/
def asFields : List (List Glyph) → List Glyph
  | [] => []
  | [g] => g
  | g :: more => g ++ cut :: asFields more

/-! ### Fields -/

/-- A white byte among those at which fields end. -/
def isWhite (c : Char) : Bool :=
  c = ' ' || c = '\t' || c = '\n'

/--
Split glyphs into fields. The field under way is none if none has begun; `ended` says that the last
field ended at a white byte, so that a further separator belongs to that end.
-/
def split (separators : Str) : Option (List Glyph) → Bool → List Glyph → List (List Glyph)
  | field, _, [] => field.toList
  | field, ended, mark :: rest => split separators (some (field.getD [])) ended rest
  | field, _, cut :: rest => field.toList ++ split separators none false rest
  | field, ended, byte c quoted splits :: rest =>
    if splits && separators.contains c then
      match field with
      | some f => f :: split separators none (isWhite c) rest
      | none =>
        if isWhite c || ended then split separators none (ended && isWhite c) rest
        else [] :: split separators none false rest
    else
      split separators (some (field.getD [] ++ [byte c quoted splits])) false rest

end Glyph

/-! ### Paths -/

/-- The parts of a pattern between slashes. -/
def Pattern.steps : Pattern → List Pattern
  | [] => [[]]
  | .byte '/' :: rest => [] :: steps rest
  | place :: rest =>
    match steps rest with
    | [] => [[place]]
    | first :: more => (place :: first) :: more

/-- The string that a pattern without wild places stands for. -/
def Pattern.literal (p : Pattern) : Str :=
  p.filterMap fun
    | .byte c => some c
    | _ => none

/-- The paths that the steps of a pattern lead to, with the string that they are written by. -/
def matchSteps (files : Files) : List Pattern → List (Path × Str) → List (Path × Str)
  | [], found => found
  | step :: more, found =>
    let next := matchStep step found
    matchSteps files more (if more.isEmpty then next else next.map fun f ↦ (f.1, f.2 ++ ['/']))
where
  /-- The paths that one step leads to. -/
  matchStep (step : Pattern) (found : List (Path × Str)) : List (Path × Str) :=
    if step.isEmpty then
      found
    else if step.isWild then
      found.flatMap fun (path, written) ↦
        let names := (files.children path).filter fun n ↦
          step.accepts (Str.ofText n) &&
            (n.toList.head? != some '.' || step.head? == some (.byte '.'))
        names.map fun n ↦ (path ++ [n], written ++ Str.ofText n)
    else
      let name := Str.text step.literal
      let go (path : Path) : Path :=
        if name = "." then path else if name = ".." then path.dropLast else path ++ [name]
      (found.map fun (path, written) ↦ (go path, written ++ step.literal)).filter fun (path, _) ↦
        files.isDirectory path || (files.get? path).isSome

/-- The strings by which the paths that a pattern matches are written. -/
def matchPaths (files : Files) (here : Path) (p : Pattern) : List Str :=
  let start : Path := if p.head? = some (.byte '/') then [] else here
  (matchSteps files p.steps [(start, [])]).map Prod.snd

namespace Expansion

/-- The bytes at which fields end. -/
def separators : Run Str := do
  return ((← Run.valueOf? "IFS".toList).getD [' ', '\t', '\n'])

/-- The letters of options in the order in which they are shown. -/
def switchOrder : Str :=
  "pubaCEVvxsnmiIfe".toList

/-- The value of a parameter, if it has one. -/
def value? (name : Str) : Run (Option Str) := do
  let sh ← Run.shell
  match String.ofList name with
  | "?" => return some (Str.ofNat sh.status)
  | "#" => return some (Str.ofNat sh.arguments.length)
  | "$" => return some (Str.ofNat sh.process)
  | "-" => return some (switchOrder.filter sh.switches.contains)
  | "!" => return none
  | "0" => return some sh.name
  | "@" => return if sh.arguments.isEmpty then none else some ([' '].intercalate sh.arguments)
  | "*" =>
    let joint := (← separators).take 1
    return if sh.arguments.isEmpty then none else some (joint.intercalate sh.arguments)
  | _ =>
    match Str.nat? name with
    | some n => return sh.arguments[n - 1]?
    | none => return sh.bindings.get? name

/-- A value that has to be there if the shell is wary. -/
def present (name : Str) (value : Option Str) : Run Str := do
  match value with
  | some v => return v
  | none =>
    if (← Run.shell).isOn .wary && name != ['@'] && name != ['*'] then
      Run.fatal (name ++ ": parameter not set".toList)
    return []

/-- A value counts as one: it is there, and not empty if that is wanted. -/
def counts (orEmpty : Bool) (value : Option Str) : Bool :=
  match value with
  | none => false
  | some v => !(orEmpty && v.isEmpty)

/-- What a fault of an arithmetic expression is complained of with. -/
def arithmeticComplaint (source : Str) : ArithmeticFault → Str
  | .noOperand => "arithmetic expression: expecting primary: \"".toList ++ source ++ ['"']
  | .noParenthesis => "arithmetic expression: expecting \x27)\x27: \"".toList ++ source ++ ['"']
  | .noColon => "arithmetic expression: expecting \x27:\x27: \"".toList ++ source ++ ['"']
  | .surplus => "arithmetic expression: expecting EOF: \"".toList ++ source ++ ['"']
  | .zeroDivisor => "arithmetic expression: division by zero: \"".toList ++ source ++ ['"']
  | .notNumber value => "Illegal number: ".toList ++ value

/-- The value of an arithmetic expression. -/
def arithmetic (source : Str) : Run Str := do
  let look (bindings : Keyed Str Str) (name : Str) : Str := (bindings.get? name).getD []
  let sh ← Run.shell
  match (Arithmetic.read source).bind fun e ↦ e.eval look Keyed.set sh.bindings with
  | .ok (n, bindings) =>
    (sh.fixed.filter fun name ↦ bindings.get? name ≠ sh.bindings.get? name).forM
      (Run.checkFixed "")
    Run.changeShell fun s ↦ { s with bindings }
    return Str.ofInt n
  | .error fault => Run.fatal (arithmeticComplaint source fault)

mutual

/-- The glyphs of a part, which may stand for the value of a parameter. -/
def ofPart (substitute : Str → Run Str) (inValue : Bool) : Part → Run (List Glyph)
  | .text quoted s => return Glyph.ofText inValue quoted s
  | .output quoted source => do return Glyph.ofValue quoted (← substitute source)
  | .arithmetic quoted source => do
    let glyphs ← ofParts substitute false source
    return Glyph.ofValue quoted (← arithmetic (Glyph.bytes glyphs))
  | .parameter quoted name use word => do
    let value ← value? name
    match use with
    | .value =>
      if name = ['@'] || (name = ['*'] && !quoted) then
        let arguments := (← Run.shell).arguments
        return Glyph.asFields (arguments.map (Glyph.ofValue quoted))
      else
        return Glyph.ofValue quoted (← present name value)
    | .length => return Glyph.ofValue quoted (Str.ofNat (← present name value).length)
    | .default orEmpty =>
      if counts orEmpty value then return Glyph.ofValue quoted (value.getD [])
      else ofParts substitute true word
    | .assign orEmpty =>
      if counts orEmpty value then
        return Glyph.ofValue quoted (value.getD [])
      else
        let glyphs ← ofParts substitute true word
        Run.setVariable name (Glyph.bytes glyphs)
        return Glyph.ofValue quoted (Glyph.bytes glyphs)
    | .require orEmpty =>
      if counts orEmpty value then
        return Glyph.ofValue quoted (value.getD [])
      else
        let message := Glyph.bytes (← ofParts substitute true word)
        let usual := if orEmpty then "parameter not set or null" else "parameter not set"
        Run.fatal (name ++ ": ".toList ++ (if message.isEmpty then usual.toList else message))
    | .instead orEmpty =>
      if counts orEmpty value then ofParts substitute true word else return Glyph.ofValue quoted []
    | .cutStart longest =>
      let p := Glyph.pattern (← ofParts substitute true word)
      return Glyph.ofValue quoted (p.cutStart longest (← present name value))
    | .cutEnd longest =>
      let p := Glyph.pattern (← ofParts substitute true word)
      return Glyph.ofValue quoted (p.cutEnd longest (← present name value))

/-- The glyphs of parts. -/
def ofParts (substitute : Str → Run Str) (inValue : Bool) : List Part → Run (List Glyph)
  | [] => return []
  | part :: more => do
    let first ← ofPart substitute inValue part
    Run.checkLength first.length
    return first ++ (← ofParts substitute inValue more)

end

/-- The value of a word that is neither split nor matched. -/
def whole (substitute : Str → Run Str) (word : Word) : Run Str := do
  return Glyph.bytes (← ofParts substitute false word)

/-- A word as a pattern. -/
def patternOf (substitute : Str → Run Str) (word : Word) : Run Pattern := do
  return Glyph.pattern (← ofParts substitute false word)

/-- The fields of a word. -/
def fields (substitute : Str → Run Str) (word : Word) : Run (List Str) := do
  let glyphs ← ofParts substitute false word
  let split := Glyph.split (← separators) none false glyphs
  let files := (← Run.machine).files
  let sh ← Run.shell
  return split.flatMap fun field ↦
    let p := Glyph.pattern field
    let found := if p.isWild && !sh.isOn .plain then matchPaths files sh.here p else []
    if found.isEmpty then [Glyph.bytes field] else found

/-- The fields of words. -/
def allFields (substitute : Str → Run Str) (words : List Word) : Run (List Str) := do
  return (← words.mapM (fields substitute)).flatten

end Expansion

end RonWorkbench.Shell
