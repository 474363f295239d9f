import RonWorkbench.Shell.Pattern
import RonWorkbench.Shell.Tool.Stream

/-!
# Replacing bytes

The tool `tr` replaces, deletes or squeezes bytes. Its operands are sets of bytes as they are
written (`SetPart`): bytes, ranges, named classes, and a byte as often as it takes to fill a set up.
Two sets that do not fit together are refused (`SetFault`).
-/

namespace RonWorkbench.Shell.Tool

/-- A part of a set as it is written. -/
inductive SetPart
  /-- Some bytes one by one, or a range of them. -/
  | bytes (members : Str)
  /-- A class of bytes. -/
  | named (name : String) (members : Str)
  /-- The bytes that are sorted as one is. -/
  | alike (c : Char)
  /-- A byte some times, or as often as it takes. -/
  | repeated (c : Char) (count : Option Nat)
  deriving DecidableEq

/-- Why bytes cannot be replaced. -/
inductive SetFault
  | reversed (low high : Char)
  | noClass (name : Str)
  | notOne (what : Str)
  | badCount (count : Str)
  | fillsFirst
  | fillsTwice
  | fillsKept
  | alikeSecond
  | classSecond
  | misplacedClass
  | emptySecond
  | classLast
  | manyForComplement

/-- A byte as it stands in a complaint. -/
def showByte (c : Char) : Str :=
  if ' ' ≤ c ∧ c ≤ '~' then [c]
  else '\\' :: [64, 8, 1].map fun weight ↦ Char.ofNat ('0'.toNat + c.toNat / weight % 8)

/-- The fault in words. -/
def SetFault.message : SetFault → Str
  | reversed low high =>
    "range-endpoints of '".toList ++ showByte low ++ ['-'] ++ showByte high
      ++ "' are in reverse collating sequence order".toList
  | noClass name =>
    if name.isEmpty then "missing character class name '[::]'".toList
    else "invalid character class ".toList ++ quote name
  | notOne what =>
    if what.isEmpty then "missing equivalence class character '[==]'".toList
    else what ++ ": equivalence class operand must be a single character".toList
  | badCount count =>
    "invalid repeat count ".toList ++ quote count ++ " in [c*n] construct".toList
  | fillsFirst => "the [c*] repeat construct may not appear in string1".toList
  | fillsTwice => "only one [c*] repeat construct may appear in string2".toList
  | fillsKept => "the [c*] construct may appear in string2 only when translating".toList
  | alikeSecond => "[=c=] expressions may not appear in string2 when translating".toList
  | classSecond =>
    ("when translating, the only character classes that may appear in\n"
      ++ "string2 are 'upper' and 'lower'").toList
  | misplacedClass => "misaligned [:upper:] and/or [:lower:] construct".toList
  | emptySecond => "when not truncating set1, string2 must be non-empty".toList
  | classLast =>
    ("when translating with string1 longer than string2,\n"
      ++ "the latter string must not end with a character class").toList
  | manyForComplement =>
    ("when translating with complemented character classes,\n"
      ++ "string2 must map all characters in the domain to one").toList

/-! ### Reading a set -/

/-- The number that octal digits stand for. -/
def octal (digits : Str) : Nat :=
  digits.foldl (fun n d ↦ 8 * n + (d.toNat - '0'.toNat)) 0

/-- The byte that stands for a byte behind a backslash. -/
def escapedByte : Char → Char
  | 'n' => '\n'
  | 't' => '\t'
  | 'r' => '\r'
  | 'a' => '\x07'
  | 'b' => '\x08'
  | 'f' => '\x0c'
  | 'v' => '\x0b'
  | other => other

/-- Escapes of a set undone: each byte with whether it was escaped. -/
def unescapeSet (s : Str) : List (Char × Bool) :=
  match s with
  | [] => []
  | '\\' :: c :: rest =>
    let digits := ((c :: rest).take 3).takeWhile fun d ↦ '0' ≤ d && d ≤ '7'
    let digits := if 255 < octal digits then digits.take 2 else digits
    if digits.isEmpty then (escapedByte c, true) :: unescapeSet rest
    else (Char.ofNat (octal digits), true) :: unescapeSet (rest.drop (digits.length - 1))
  | c :: rest => (c, false) :: unescapeSet rest
termination_by s.length
decreasing_by all_goals simp_all <;> omega

/-- The bytes from one to another. -/
def between (low high : Char) : Str :=
  (List.range (high.toNat + 1 - low.toNat)).map fun i ↦ Char.ofNat (low.toNat + i)

/-- What stands before a mark and a closing bracket, none of them escaped, and what follows. -/
def upToMark (mark : Char) : List (Char × Bool) → Option (Str × List (Char × Bool))
  | [] => none
  | c :: rest =>
    if c = (mark, false) ∧ rest.head? = some (']', false) then some ([], rest.drop 1)
    else (upToMark mark rest).map fun r ↦ (c.1 :: r.1, r.2)

/-- The number of times that a repetition says; none means as often as it takes. -/
def repeatCount (digits : Str) : Except SetFault (Option Nat) :=
  let count :=
    if digits.head? = some '0' then
      if digits.all fun d ↦ '0' ≤ d && d ≤ '7' then some (octal digits) else none
    else if digits.isEmpty then
      some 0
    else
      Str.nat? digits
  match count with
  | none => .error (.badCount digits)
  | some 0 => .ok none
  | some n => .ok (some n)

/-- A repetition behind its opening bracket, and what follows it. -/
def repetition? : List (Char × Bool) →
    Option (Except SetFault (SetPart × List (Char × Bool)))
  | (c, _) :: ('*', false) :: rest =>
    let digits := rest.takeWhile fun d ↦ !d.2 && d.1 != ']'
    match rest.drop digits.length with
    | (']', false) :: behind =>
      some ((repeatCount (digits.map Prod.fst)).map fun count ↦ (.repeated c count, behind))
    | _ => none
  | _ => none

/-- A class behind its opening bracket and mark, and what follows it. -/
def bracketed? (mark : Char) (s : List (Char × Bool)) :
    Option (Except SetFault (SetPart × List (Char × Bool))) :=
  (upToMark mark s).map fun (inside, behind) ↦
    if mark = '=' then
      match inside with
      | [c] => .ok (.alike c, behind)
      | _ => .error (.notOne inside)
    else
      let ranges := Pattern.classRanges (String.ofList inside)
      if ranges.isEmpty then
        .error (.noClass inside)
      else
        let members := (between '\x00' '\xff').filter fun c ↦
          ranges.any fun r ↦ r.1 ≤ c && c ≤ r.2
        .ok (.named (String.ofList inside) members, behind)

/-- What an opening bracket begins, if it does not stand for itself. -/
def behindBracket? (s : List (Char × Bool)) :
    Option (Except SetFault (SetPart × List (Char × Bool))) :=
  let named := match s with
    | (mark, false) :: rest => if mark = ':' ∨ mark = '=' then bracketed? mark rest else none
    | _ => none
  named <|> repetition? s

/-- The parts of a set; each takes a byte at least, so as many rounds as there are bytes will do. -/
def readParts : Nat → List (Char × Bool) → Except SetFault (List SetPart)
  | 0, _ => .ok []
  | _, [] => .ok []
  | rounds + 1, first :: rest => do
    let special :=
      if first = ('[', false) ∧ 2 ≤ rest.length then behindBracket? rest else none
    match special with
    | some result =>
      let (part, behind) ← result
      return part :: (← readParts rounds behind)
    | none =>
      match rest with
      | ('-', false) :: (high, _) :: behind =>
        if high < first.1 then
          throw (.reversed first.1 high)
        return .bytes (between first.1 high) :: (← readParts rounds behind)
      | _ => return .bytes [first.1] :: (← readParts rounds rest)

/-- The parts of a set as it is written. -/
def readSet (s : Str) : Except SetFault (List SetPart) :=
  readParts s.length (unescapeSet s)

namespace SetPart

/-- The part is repeated as often as it takes. -/
def isFill : SetPart → Bool
  | repeated _ none => true
  | _ => false

/-- The part is a class. -/
def isNamed : SetPart → Bool
  | named .. => true
  | _ => false

/-- The part is the class of the capital letters or that of the small ones. -/
def isCase : SetPart → Bool
  | named name _ => name = "upper" || name = "lower"
  | _ => false

/-- The bytes of a part that is filled up to a number of times. -/
def members (filled : Nat) : SetPart → Str
  | bytes members | named _ members => members
  | alike c => [c]
  | repeated c count => List.replicate (count.getD filled) c

/-- The bytes of parts. -/
def expand (filled : Nat) (parts : List SetPart) : Str :=
  parts.flatMap (members filled)

/-- The places, counted in bytes, at which classes of letters begin. -/
def casePlaces (filled : Nat) : Nat → List SetPart → List Nat
  | _, [] => []
  | place, part :: more =>
    (if part.isCase then [place] else [])
      ++ casePlaces filled (place + (part.members filled).length) more

end SetPart

/-! ### Replacing -/

/-- What is asked for: whether the first set is what it lacks, and what is done with it. -/
structure Replacement where
  complement : Bool
  truncates : Bool
  deletes : Bool
  squeezes : Bool

namespace Replacement

/-- The bytes that the first set stands for. -/
def domain (r : Replacement) (first : List SetPart) : Str :=
  let members := SetPart.expand 0 first
  if r.complement then (between '\x00' '\xff').filter fun c ↦ !members.contains c else members

/-- What the bytes of the first set become, one by one, or why they cannot. -/
def image (r : Replacement) (first second : List SetPart) : Except SetFault Str := do
  let domain := r.domain first
  let filled := domain.length - (SetPart.expand 0 second).length
  let members := SetPart.expand filled second
  if second.any fun part ↦ part matches .alike _ then
    throw .alikeSecond
  if second.any fun part ↦ part.isNamed && !part.isCase then
    throw .classSecond
  let places := SetPart.casePlaces filled 0 first
  if !r.complement && (SetPart.casePlaces filled 0 second).any fun place ↦
      place ≤ domain.length && !places.contains place then
    throw .misplacedClass
  let result ←
    if domain.length ≤ members.length then
      pure (members.take domain.length)
    else if r.truncates then
      pure members
    else
      match second.getLast? with
      | none => throw .emptySecond
      | some last =>
        if last.isNamed then
          throw .classLast
        pure (members ++ List.replicate (domain.length - members.length)
          (members.getLast?.getD ' '))
  if r.complement && first.any SetPart.isNamed && result.any (· != result.head?.getD ' ') then
    throw .manyForComplement
  return result

/-- What a byte becomes by pairs of bytes and images, of which the first counts. -/
def replace (pairs : List (Char × Char)) (c : Char) : Char :=
  (pairs.lookup c).getD c

/-- Make runs of one byte of a set one byte. -/
def squeeze (set : Str) : Str → Str
  | [] => []
  | [c] => [c]
  | c :: d :: rest =>
    if c = d && set.contains c then squeeze set (d :: rest) else c :: squeeze set (d :: rest)

/-- Squeeze a supply. -/
def squeezed (set : Str) (s : Supply) : Supply :=
  { s with bytes := squeeze set s.bytes }

/-- The change of a supply that two sets, or one, stand for. -/
def change (r : Replacement) (first : Str) (second : Option Str) :
    Except SetFault (Supply → Supply) := do
  let first ← readSet first
  let second ← second.mapM readSet
  if first.any SetPart.isFill then
    throw .fillsFirst
  let domain := r.domain first
  match second with
  | none =>
    return if r.deletes then Supply.filter fun c ↦ !domain.contains c else squeezed domain
  | some second =>
    if 1 < (second.filter SetPart.isFill).length then
      throw .fillsTwice
    if r.deletes then
      if second.any SetPart.isFill then
        throw .fillsKept
      return fun s ↦ squeezed (SetPart.expand 0 second) (s.filter fun c ↦ !domain.contains c)
    else
      let pairs := (domain.zip (← r.image first second)).reverse
      return fun s ↦
        let replaced := s.map (replace pairs)
        if r.squeezes then squeezed (SetPart.expand 0 second) replaced else replaced

end Replacement

/-- Replace, delete or squeeze bytes of the input. -/
def tr : Tool := fun w arguments ↦
  let options := arguments.takeWhile fun a ↦ a.head? = some '-' ∧ a.length > 1 ∧ a ≠ ['-', '-']
  let operands := arguments.drop options.length
  let operands := if operands.head? = some ['-', '-'] then operands.drop 1 else operands
  let given := letters options
  let r : Replacement :=
    { complement := given.contains 'c' || given.contains 'C'
      truncates := given.contains 't'
      deletes := given.contains 'd'
      squeezes := given.contains 's' }
  let refuse (what : Str) : Work :=
    w.fails ("tr: ".toList ++ what ++ "\nTry 'tr --help' for more information.".toList) 1
  let work (first : Str) (second : Option Str) : Work :=
    match r.change first second with
    | .ok f => through w "tr" [] f
    | .error fault => w.fails ("tr: ".toList ++ fault.message) 1
  match stranger? "cCdst" options, operands with
  | some c, _ => unknownOption w "tr" c
  | none, [] => missingOperand w "tr"
  | none, [set] =>
    if r.deletes && r.squeezes then
      refuse ("missing operand after ".toList ++ quote set
        ++ "\nTwo strings must be given when both deleting and squeezing repeats.".toList)
    else if r.deletes || r.squeezes then
      work set none
    else
      refuse ("missing operand after ".toList ++ quote set
        ++ "\nTwo strings must be given when translating.".toList)
  | none, [first, second] =>
    if r.deletes && !r.squeezes then
      refuse ("extra operand ".toList ++ quote second
        ++ "\nOnly one string may be given when deleting without squeezing repeats.".toList)
    else
      work first (some second)
  | none, _ :: second :: third :: _ =>
    refuse ("extra operand ".toList ++ quote (if r.deletes && !r.squeezes then second else third))

end RonWorkbench.Shell.Tool
