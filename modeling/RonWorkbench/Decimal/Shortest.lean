import RonWorkbench.Bits

/-!
# The shortest decimal of a float

A float stands for every real number that rounds to it. Its decimal text has the fewest digits
with which some decimal is among those numbers, and of two such decimals the nearer one.

A float is taken apart into a whole number times a power of two. For one digit, then two, and so
on, the two neighbours of the value on the decimal grid with that many digits are tried in exact
arithmetic; seventeen digits always suffice.
-/

namespace RonWorkbench.Decimal

/-- A whole number scaled by a power of ten. -/
structure Scaled where
  digits : Nat
  exponent : Int
  deriving Repr, DecidableEq

/-- Move the zeros at the end of the digits into the exponent, at most so many of them. -/
def Scaled.trim : Nat → Scaled → Scaled
  | 0, d => d
  | fuel + 1, d =>
    if d.digits ≠ 0 ∧ d.digits % 10 = 0 then
      Scaled.trim fuel ⟨d.digits / 10, d.exponent + 1⟩
    else
      d

/-- A positive fraction. -/
structure Ratio where
  num : Nat
  den : Nat

namespace Ratio

/-- A whole number times a power of two. -/
def ofBinary (n : Nat) (exponent : Int) : Ratio :=
  if exponent < 0 then ⟨n, Nat.pow 2 (-exponent).toNat⟩ else ⟨n * Nat.pow 2 exponent.toNat, 1⟩

/-- A whole number times a power of ten. -/
def ofDecimal (d : Scaled) : Ratio :=
  if d.exponent < 0 then ⟨d.digits, Nat.pow 10 (-d.exponent).toNat⟩
  else ⟨d.digits * Nat.pow 10 d.exponent.toNat, 1⟩

/-- Strictly smaller, by cross multiplication. -/
def lt (a b : Ratio) : Bool :=
  decide (a.num * b.den < b.num * a.den)

/-- The distance of two fractions. -/
def distance (a b : Ratio) : Ratio :=
  let x := a.num * b.den
  let y := b.num * a.den
  ⟨if x ≤ y then y - x else x - y, a.den * b.den⟩

/-- Number of decimal digits, one for zero. -/
def digitCount (n : Nat) : Nat :=
  (Nat.toDigits 10 n).length

/-- The exponent of the leading decimal digit of a positive fraction. -/
def leadingExponent (r : Ratio) : Int :=
  if r.den ≤ r.num then
    (digitCount (r.num / r.den) : Int) - 1
  else
    let n := digitCount (r.den / r.num)
    if r.den = r.num * Nat.pow 10 (n - 1) then -((n : Int) - 1) else -(n : Int)

/-- The last multiple of a power of ten at or below a fraction. -/
def floorAt (r : Ratio) (exponent : Int) : Nat :=
  if exponent < 0 then r.num * Nat.pow 10 (-exponent).toNat / r.den
  else r.num / (r.den * Nat.pow 10 exponent.toNat)

end Ratio

/-- The reals that round to a float: the value and the ends, which belong to it or not. -/
structure Interval where
  low : Ratio
  value : Ratio
  high : Ratio
  closed : Bool

namespace Interval

/-- The decimal lies in the interval. -/
def contains (i : Interval) (d : Scaled) : Bool :=
  let x := Ratio.ofDecimal d
  if i.closed then !x.lt i.low && !i.high.lt x else i.low.lt x && x.lt i.high

/-- The neighbour of the value on the grid with the given number of digits, if one lies inside. -/
def onGrid? (i : Interval) (count : Nat) : Option Scaled :=
  let exponent := i.value.leadingExponent - count + 1
  let below : Scaled := ⟨i.value.floorAt exponent, exponent⟩
  let above : Scaled := ⟨below.digits + 1, exponent⟩
  match i.contains below && below.digits != 0, i.contains above with
  | true, true =>
    let down := i.value.distance (.ofDecimal below)
    let up := i.value.distance (.ofDecimal above)
    some (if up.lt down || (!down.lt up && below.digits % 2 == 1) then above else below)
  | true, false => some below
  | false, true => some above
  | false, false => none

/-- The first grid with a hit. -/
def shortest (i : Interval) : Scaled :=
  (((List.range 17).findSome? fun k ↦ i.onGrid? (k + 1)).getD ⟨0, 0⟩).trim 17

end Interval

/-- The interval of a float given by its fraction and exponent fields. -/
def intervalOfFields (fraction exponent : Nat) : Interval :=
  let m := if exponent = 0 then fraction else Bits.wordCount 52 + fraction
  let q : Int := (max exponent 1 : Int) - 1075
  -- the gap below a power of two is half as wide as the one above
  let narrow := fraction = 0 ∧ 1 < exponent
  { low := .ofBinary (if narrow then 4 * m - 1 else 4 * m - 2) (q - 2)
    value := .ofBinary (4 * m) (q - 2)
    high := .ofBinary (4 * m + 2) (q - 2)
    closed := m % 2 == 0 }

/-- A float taken apart. -/
inductive Parts
  | nan
  | infinite (negative : Bool)
  | finite (negative : Bool) (value : Scaled)
  deriving Repr, DecidableEq

/-- Take a float apart by its bits. -/
def parts (x : Float) : Parts :=
  let bits := x.toBits.toNat
  let negative := decide (Bits.wordCount 63 ≤ bits)
  let exponent := bits / Bits.wordCount 52 % 2048
  let fraction := bits % Bits.wordCount 52
  if exponent = 2047 then
    if fraction = 0 then .infinite negative else .nan
  else if exponent = 0 ∧ fraction = 0 then
    .finite negative ⟨0, 0⟩
  else
    .finite negative (intervalOfFields fraction exponent).shortest

/-- A scaled number in positional notation, without a point if it is whole. -/
def positional (d : Scaled) : String :=
  let digits := toString d.digits
  if d.exponent < 0 then
    let places := (-d.exponent).toNat
    let padded := List.replicate (places + 1 - digits.length) '0' ++ digits.toList
    let cut := padded.length - places
    let fraction := ((padded.drop cut).reverse.dropWhile (· == '0')).reverse
    String.ofList (padded.take cut ++ if fraction.isEmpty then [] else '.' :: fraction)
  else if d.digits = 0 then
    "0"
  else
    digits ++ String.ofList (List.replicate d.exponent.toNat '0')

/-- The plain text of a float: positional, and without a point if it is whole. -/
def plain (x : Float) : String :=
  match parts x with
  | .nan => "NaN"
  | .infinite negative => if negative then "-inf" else "inf"
  | .finite negative value => (if negative then "-" else "") ++ positional value

/-- The text of a float that is told from an integer: a whole one ends in a point and a zero. -/
def pointed (x : Float) : String :=
  let text := plain x
  match parts x with
  | .finite _ _ => if text.toList.contains '.' then text else text ++ ".0"
  | _ => text

/-- The places up to which a number is written out rather than with an exponent. -/
structure Bounds where
  /-- The greatest number of digits before the point. -/
  most : Int
  /-- The greatest number of zeros behind the point. -/
  zeros : Int

/-- A number with one digit before the point and an exponent. -/
def withExponent (d : Scaled) : String :=
  let exponent := d.exponent + (toString d.digits).length - 1
  match (toString d.digits).toList with
  | first :: second :: more =>
    String.ofList (first :: '.' :: second :: more) ++ "e" ++ toString exponent
  | ds => String.ofList ds ++ "e" ++ toString exponent

/-- The text of a finite float: written out within bounds, with an exponent beyond them. -/
def bounded (b : Bounds) (x : Float) : String :=
  match parts x with
  | .finite negative d =>
    let before := d.exponent + (toString d.digits).length
    let sign := if negative then "-" else ""
    if d.digits = 0 ∨ (-b.zeros ≤ before ∧ before ≤ b.most) then
      pointed x
    else
      sign ++ withExponent d
  | _ => plain x

end RonWorkbench.Decimal
