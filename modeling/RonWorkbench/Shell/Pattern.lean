import RonWorkbench.Shell.Basic

/-!
# Patterns

A pattern matches whole strings: `*` any string, `?` any byte, `[…]` one byte of a set, and every
other byte itself. Quoted bytes match only themselves, so a pattern is read from bytes of which it
is known whether they were quoted.
-/

namespace RonWorkbench.Shell

/-- One place of a pattern. -/
inductive Place
  /-- Any string. -/
  | anything
  /-- Any byte. -/
  | anyByte
  /-- A byte within, or without, some ranges. -/
  | set (within : Bool) (ranges : List (Char × Char))
  /-- This byte. -/
  | byte (c : Char)
  deriving Repr, DecidableEq

/-- The places of a pattern. -/
abbrev Pattern := List Place

namespace Place

/-- A place matches one byte. -/
def accepts : Place → Char → Bool
  | anything, _ => false
  | anyByte, _ => true
  | set within ranges, c => ranges.any (fun r ↦ r.1 ≤ c && c ≤ r.2) == within
  | byte d, c => c == d

end Place

namespace Pattern

/-- A named class of bytes. -/
def classRanges : String → List (Char × Char)
  | "alpha" => [('a', 'z'), ('A', 'Z')]
  | "digit" => [('0', '9')]
  | "alnum" => [('a', 'z'), ('A', 'Z'), ('0', '9')]
  | "upper" => [('A', 'Z')]
  | "lower" => [('a', 'z')]
  | "space" => [('\t', '\r'), (' ', ' ')]
  | "blank" => [('\t', '\t'), (' ', ' ')]
  | "punct" => [('!', '/'), (':', '@'), ('[', '`'), ('{', '~')]
  | "xdigit" => [('0', '9'), ('a', 'f'), ('A', 'F')]
  | "print" => [(' ', '~')]
  | "graph" => [('!', '~')]
  | "cntrl" => [('\x00', '\x1f'), ('\x7f', '\x7f')]
  | _ => []

/-- The name of a class, which ends before a colon. -/
def className (s : List (Char × Bool)) : Str :=
  (s.map Prod.fst).takeWhile (· != ':')

/-- The members of a set up to its closing bracket, and what follows it. -/
def readSet (first : Bool) (s : List (Char × Bool)) :
    Option (List (Char × Char) × List (Char × Bool)) :=
  match s with
  | [] => none
  | (']', false) :: rest =>
    if first then
      (readSet false rest).map fun r ↦ ((']', ']') :: r.1, r.2)
    else
      some ([], rest)
  | ('[', false) :: (':', false) :: rest =>
    (readSet false ((rest.drop (className rest).length).drop 2)).map fun r ↦
      (classRanges (String.ofList (className rest)) ++ r.1, r.2)
  | (c, _) :: ('-', false) :: (high, quoted) :: rest =>
    if high = ']' && !quoted then
      (readSet false (('-', false) :: (high, quoted) :: rest)).map fun r ↦
        ((c, c) :: r.1, r.2)
    else
      (readSet false rest).map fun r ↦ ((c, high) :: r.1, r.2)
  | (c, _) :: rest => (readSet false rest).map fun r ↦ ((c, c) :: r.1, r.2)
termination_by s.length
decreasing_by all_goals simp_all <;> omega

theorem length_snd_readSet {first : Bool} {s : List (Char × Bool)}
    {r : List (Char × Char) × List (Char × Bool)} (h : readSet first s = some r) :
    r.2.length < s.length := by
  fun_induction readSet first s generalizing r
  case case1 => simp at h
  case case3 =>
    simp only [Option.some.injEq] at h
    subst h
    simp
  all_goals
    rename_i ih
    obtain ⟨q, hq, rfl⟩ := Option.map_eq_some_iff.1 h
    have := ih hq
    simp_all
    try omega

/-- The pattern of bytes with their quoting. -/
def ofBytes (s : List (Char × Bool)) : Pattern :=
  match s with
  | [] => []
  | ('*', false) :: rest => .anything :: ofBytes rest
  | ('?', false) :: rest => .anyByte :: ofBytes rest
  | ('[', false) :: ('!', false) :: rest =>
    match h : readSet true rest with
    | some (ranges, after) =>
      have := length_snd_readSet h
      .set false ranges :: ofBytes after
    | none => .byte '[' :: ofBytes (('!', false) :: rest)
  | ('[', false) :: rest =>
    match h : readSet true rest with
    | some (ranges, after) =>
      have := length_snd_readSet h
      .set true ranges :: ofBytes after
    | none => .byte '[' :: ofBytes rest
  | (c, _) :: rest => .byte c :: ofBytes rest
termination_by s.length
decreasing_by all_goals simp_all <;> omega

/-- The pattern matches the whole string. -/
def accepts : Pattern → Str → Bool
  | [], s => s.isEmpty
  | .anything :: p, s => (suffixes s).any (accepts p)
  | _ :: _, [] => false
  | place :: p, c :: s => place.accepts c && accepts p s
where
  /-- The ends of a string, the longest first. -/
  suffixes : Str → List Str
    | [] => [[]]
    | c :: s => (c :: s) :: suffixes s

/-- Something in the pattern is more than a byte that stands for itself. -/
def isWild (p : Pattern) : Bool :=
  p.any fun place ↦ match place with
    | .byte _ => false
    | _ => true

/-- The lengths of the starts of a string, the shortest first. -/
def cuts (s : Str) : List Nat :=
  List.range (s.length + 1)

/-- A string without a matching start. -/
def cutStart (p : Pattern) (longest : Bool) (s : Str) : Str :=
  let order := if longest then (cuts s).reverse else cuts s
  match order.find? fun n ↦ p.accepts (s.take n) with
  | some n => s.drop n
  | none => s

/-- A string without a matching end. -/
def cutEnd (p : Pattern) (longest : Bool) (s : Str) : Str :=
  let order := if longest then cuts s else (cuts s).reverse
  match order.find? fun n ↦ p.accepts (s.drop n) with
  | some n => s.take n
  | none => s

end Pattern

end RonWorkbench.Shell
