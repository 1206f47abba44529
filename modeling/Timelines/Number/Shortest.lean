import Timelines.Number.Binary64

/-! The shortest decimal that reads back as a given binary number.

The decimals that round to `m · 2 ^ q` form an interval that ends halfway to its neighbours, the
ends included when `m` is even. For each power of ten from above, the two multiples next to the
number are tried; the first power with one inside the interval gives the fewest digits, and of two
multiples the nearer one is taken, the upper one where both are as near. -/
namespace Timelines.Binary64
open Text

/-- The interval that rounds to a finite number, and the number, over one denominator. -/
structure Interval where
  low : Nat
  value : Nat
  high : Nat
  den : Nat
  closed : Bool

/-- Halfway to both neighbours. Below a power of two the neighbour is twice as near. -/
def interval (mantissa : Nat) (exponent : Int) : Interval :=
  let unit := Nat.pow 2 exponent.toNat
  let low := if mantissa = Nat.pow 2 52 ∧ exponent > -1074 then 1 else 2
  ⟨(4 * mantissa - low) * unit, 4 * mantissa * unit, (4 * mantissa + 2) * unit,
    4 * Nat.pow 2 (-exponent).toNat, mantissa % 2 = 0⟩

/-- Whether `n · 10 ^ power` lies in the interval. -/
def Interval.holds (i : Interval) (n : Nat) (power : Int) : Bool :=
  let x := n * Nat.pow 10 power.toNat * i.den
  let scale := Nat.pow 10 (-power).toNat
  if i.closed then i.low * scale ≤ x && x ≤ i.high * scale
  else i.low * scale < x && x < i.high * scale

/-- A multiple of `10 ^ power` in the interval, next to the value. -/
def Interval.multiple? (i : Interval) (power : Int) : Option Nat :=
  let num := i.value * Nat.pow 10 (-power).toNat
  let den := i.den * Nat.pow 10 power.toNat
  let below := num / den
  let above := below + 1
  let nearer := if 2 * (num % den) < den then below else above
  let farther := if 2 * (num % den) < den then above else below
  if nearer ≠ 0 ∧ i.holds nearer power then some nearer
  else if farther ≠ 0 ∧ i.holds farther power then some farther
  else none

/-- The first power of ten, going down from `power`, that has a multiple in the interval. -/
def Interval.shortest (i : Interval) : Nat → Int → Nat × Int
  | 0, power => (0, power)
  | fuel + 1, power =>
    match i.multiple? power with
    | some n => (n, power)
    | none => shortest i fuel (power - 1)

/-- Digits and power of ten of the shortest decimal, for a number that is not zero. -/
def shortestDecimal (mantissa : Nat) (exponent : Int) : Nat × Int :=
  (interval mantissa exponent).shortest 700 309

/-- Digits in positional notation, with a point only before a fraction. -/
def positional (n : Nat) (power : Int) : List Char :=
  let ds := Nat.toDigits 10 n
  if power ≥ 0 then ds ++ List.replicate power.toNat '0'
  else
    let places := (-power).toNat
    let ds := List.replicate (places + 1 - ds.length) '0' ++ ds
    ds.take (ds.length - places) ++ '.' :: ds.drop (ds.length - places)

/-- The shortest decimal in positional notation; `NaN` and `inf` for what is not finite. -/
def chars : Binary64 → List Char
  | nan => "NaN".toList
  | infinite negative => (if negative then ['-'] else []) ++ "inf".toList
  | finite negative mantissa exponent =>
    let digits :=
      if mantissa = 0 then ['0']
      else positional (shortestDecimal mantissa exponent).1 (shortestDecimal mantissa exponent).2
    (if negative then ['-'] else []) ++ digits

/-- The written form of a number. -/
def text (x : Binary64) : String := String.ofList x.chars

end Timelines.Binary64
