import RonWorkbench.Bits
import RonWorkbench.Json.Basic

/-!
# Numbers of JSON texts

A number without fraction and exponent that fits into 64 bits is an integer, with or without sign;
minus zero is not, and any other number is a float. Of a float's digits those count that fit
together into 64 bits; the digits behind them only scale, and of a fraction they do not count at
all. The digits are then scaled by one multiplication or division by a power of ten, and by steps
of 308 places beyond that.
-/

namespace RonWorkbench.Json

/-- One past the largest 64-bit count. -/
def wordLimit : Nat := Bits.wordCount 64

/-- The value of a decimal digit. -/
def digit? (c : Char) : Option Nat :=
  if '0' ≤ c ∧ c ≤ '9' then some (c.toNat - '0'.toNat) else none

/-- The decimal digits at the start of a text, as values, and the rest. -/
def digits : List Char → List Nat × List Char
  | [] => ([], [])
  | c :: rest =>
    match digit? c with
    | some d => let more := digits rest; (d :: more.1, more.2)
    | none => ([], c :: rest)

/-- Digits kept so far and the number of places by which they are to be scaled. -/
structure Scaled where
  significand : Nat
  exponent : Int

/-- Add the digits before the point: those that do not fit any more only scale. -/
def Scaled.whole (s : Scaled) : List Nat → Scaled
  | [] => s
  | d :: more =>
    if s.exponent = 0 ∧ s.significand * 10 + d < wordLimit then
      Scaled.whole { s with significand := s.significand * 10 + d } more
    else
      Scaled.whole { s with exponent := s.exponent + 1 } more

/-- Add the digits behind the point, up to the first that does not fit any more. -/
def Scaled.fraction (s : Scaled) : List Nat → Scaled
  | [] => s
  | d :: more =>
    if s.significand * 10 + d < wordLimit then
      Scaled.fraction ⟨s.significand * 10 + d, s.exponent - 1⟩ more
    else
      s

/-- The largest power of ten that one multiplication or division scales by. -/
def largestPower : Nat := 308

/-- Ten to a power of at most 308. -/
def powerOfTen (n : Nat) : Float :=
  Float.ofScientific 1 false n

/-- Divide by ten to the given power, in steps. -/
def scaleDown (x : Float) (places : Nat) : Float :=
  if places ≤ largestPower then
    x / powerOfTen places
  else if x == 0.0 then
    x
  else
    scaleDown (x / powerOfTen largestPower) (places - largestPower)
termination_by places
decreasing_by
  simp only [largestPower] at *
  omega

/-- The float of scaled digits, unless it is too large for one. -/
def Scaled.toFloat? (s : Scaled) (negative : Bool) : Option Float :=
  let x := Float.ofNat s.significand
  let scaled :=
    if s.exponent < 0 then
      some (scaleDown x (-s.exponent).toNat)
    else if s.exponent ≤ largestPower then
      let product := x * powerOfTen s.exponent.toNat
      if product.isInf then none else some product
    else if s.significand = 0 then
      some x
    else
      none
  scaled.map fun x ↦ if negative then -x else x

/-- The largest exponent that is read as a number; anything beyond saturates. -/
def exponentLimit : Nat := Bits.wordCount 31

/-- An exponent mark with an optional sign and at least one digit; nothing if no mark is there. -/
def exponent? (rest : List Char) : Option (Option Int × List Char) :=
  match rest with
  | [] => some (none, [])
  | mark :: more =>
    if mark = 'e' ∨ mark = 'E' then
      let (negative, more) :=
        match more with
        | '-' :: more => (true, more)
        | '+' :: more => (false, more)
        | _ => (false, more)
      let (ds, rest) := digits more
      if ds.isEmpty then
        none
      else
        let n := ds.foldl (fun n d ↦ min exponentLimit (n * 10 + d)) 0
        some (some (if negative then -(n : Int) else n), rest)
    else
      some (none, rest)

/-- The digits behind a point, at least one; nothing if no point is there. -/
def fractionDigits? (rest : List Char) : Option (Option (List Nat) × List Char) :=
  match rest with
  | '.' :: more =>
    let (ds, rest) := digits more
    if ds.isEmpty then none else some (some ds, rest)
  | _ => some (none, rest)

/-- A number without its sign; a leading zero stands alone. -/
def unsigned? (negative : Bool) (rest : List Char) : Option (Json × List Char) := do
  let (ds, rest) := digits rest
  if ds.isEmpty ∨ (ds.head? = some 0 ∧ 1 < ds.length) then
    none
  let (fraction, rest) ← fractionDigits? rest
  let (exponent, rest) ← exponent? rest
  let whole := ds.foldl (fun n d ↦ n * 10 + d) 0
  let fits :=
    if negative then decide (0 < whole) && decide (whole ≤ wordLimit / 2)
    else decide (whole < wordLimit)
  match fraction, exponent with
  | none, none =>
    if fits then
      return (.integer (if negative then -(whole : Int) else whole), rest)
    else
      let x ← ((Scaled.whole ⟨0, 0⟩ ds).toFloat? negative)
      return (.float x, rest)
  | _, _ =>
    let scaled := (Scaled.whole ⟨0, 0⟩ ds).fraction (fraction.getD [])
    let raised : Scaled := { scaled with exponent := scaled.exponent + exponent.getD 0 }
    let x ← raised.toFloat? negative
    return (.float x, rest)

/-- A number at the start of a text. -/
def number? (rest : List Char) : Option (Json × List Char) :=
  match rest with
  | '-' :: more => unsigned? true more
  | _ => unsigned? false rest

end RonWorkbench.Json
