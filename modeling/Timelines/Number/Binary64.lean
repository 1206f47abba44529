import Timelines.Number.Scientific

/-! Numbers of the 64-bit binary floating-point format, as exact values.

A finite number is `± mantissa · 2 ^ exponent` with a mantissa below `2 ^ 53` and an exponent of at
least `-1074`. A rational number is rounded to the nearest of them, a tie to the even mantissa, and
to infinity from half a step above the largest. -/
namespace Timelines

inductive Binary64
  | finite (negative : Bool) (mantissa : Nat) (exponent : Int)
  | infinite (negative : Bool)
  | nan
  deriving DecidableEq, Inhabited

namespace Binary64

def zero : Binary64 := finite false 0 (-1074)

/-- A quotient rounded to the nearest integer, a tie to the even one. -/
def divideToEven (num den : Nat) : Nat :=
  let q := num / den
  let r := num % den
  if 2 * r < den then q
  else if 2 * r = den then q + q % 2
  else q + 1

/-- The number nearest to `± num / den`. -/
def ofRatio (negative : Bool) (num den : Nat) : Binary64 :=
  if num = 0 then finite negative 0 (-1074)
  else
    let guess : Int := (Nat.log2 num : Int) - Nat.log2 den - 52
    -- The quotient scaled by `guess` lies between `2 ^ 51` and `2 ^ 54`.
    let scaled (e : Int) : Nat × Nat := (num * Nat.pow 2 (-e).toNat, den * Nat.pow 2 e.toNat)
    let (n, d) := scaled guess
    let exponent := max (-1074)
      (if n / d < Nat.pow 2 52 then guess - 1
       else if n / d < Nat.pow 2 53 then guess
       else guess + 1)
    let (n, d) := scaled exponent
    let mantissa := divideToEven n d
    let (mantissa, exponent) :=
      if mantissa = Nat.pow 2 53 then (Nat.pow 2 52, exponent + 1) else (mantissa, exponent)
    if exponent > 971 then infinite negative else finite negative mantissa exponent

/-- The number nearest to a decimal one. Beyond the format's range no digits are looked at. -/
def ofScientific (s : Scientific) : Binary64 :=
  if s.mantissa = 0 ∨ s.magnitude < -400 then finite s.negative 0 (-1074)
  else if s.magnitude > 400 then infinite s.negative
  else
    ofRatio s.negative (s.mantissa * Nat.pow 10 s.exponent.toNat)
      (Nat.pow 10 (-s.exponent).toNat)

def isFinite : Binary64 → Bool
  | finite .. => true
  | _ => false

def isZero : Binary64 → Bool
  | finite _ 0 _ => true
  | _ => false

/-- The nearest integer, a half away from zero; `none` for what is not finite. -/
def round? : Binary64 → Option Int
  | finite negative mantissa exponent =>
    let size : Nat :=
      if exponent ≥ 0 then mantissa * Nat.pow 2 exponent.toNat
      else (2 * mantissa + Nat.pow 2 (-exponent).toNat) / (2 * Nat.pow 2 (-exponent).toNat)
    some (if negative then -size else size)
  | _ => none

end Binary64
end Timelines
