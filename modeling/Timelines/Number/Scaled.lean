import Timelines.Number.Binary64
import Timelines.Number.Word

/-! Decimals read in the quick way: the leading digits that make a number of 64 bits, rounded, and
then multiplied or divided by a rounded power of ten.

The result lies within a few units in the last place of the nearest number, and for short decimals
it is the nearest one: up to `2 ^ 53` and a power of ten up to `22` nothing but the last step is
rounded. -/
namespace Timelines
open Text

namespace Scientific

/-- Digits put behind those of `n` as long as the number has 64 bits, and the digits left over. -/
def fill (n : Nat) : List Char → Nat × List Char
  | [] => (n, [])
  | c :: cs =>
    let m := 10 * n + (Decimal.value? c).getD 0
    if m < Number.Word.count 64 then fill m cs else (n, c :: cs)

/-- From the digits before and after the point and the power written behind them. Digits past those
that make a number of 64 bits count as zeros; the fraction may go on where the rest of the whole
part did not fit. -/
def ofLeadingDigits (negative : Bool) (whole fraction : List Char) (power : Int) : Scientific :=
  let (n, skipped) := fill 0 whole
  let (m, rest) := fill n fraction
  ⟨negative, m, power + skipped.length - (fraction.length - rest.length : Nat)⟩

end Scientific

namespace Binary64

/-- A finite number times a ratio, rounded. -/
def timesRatio (num den : Nat) : Binary64 → Binary64
  | finite negative m e =>
    ofRatio negative (m * Nat.pow 2 e.toNat * num) (Nat.pow 2 (-e).toNat * den)
  | x => x

/-- The natural number nearest to a given one among those of the format. -/
def nearestNat (n : Nat) : Nat :=
  match ofRatio false n 1 with
  | finite _ m e => m * Nat.pow 2 e.toNat / Nat.pow 2 (-e).toNat
  | _ => 0

/-- The greatest power of ten of the format. -/
def maxPower : Nat := 308

/-- A number times a power of ten. A power below all of the format's is reached in several steps. -/
def scale : Nat → Int → Binary64 → Binary64
  | 0, _, x => x
  | fuel + 1, power, x =>
    if power.natAbs ≤ maxPower then
      let factor := nearestNat (Nat.pow 10 power.natAbs)
      if power ≥ 0 then x.timesRatio factor 1 else x.timesRatio 1 factor
    else if x.isZero then x
    else if power ≥ 0 then infinite false
    else scale fuel (power + maxPower) (x.timesRatio 1 (nearestNat (Nat.pow 10 maxPower)))

/-- The number that a decimal with a mantissa of 64 bits is read as. Three steps take every such
mantissa to zero. -/
def scaled (s : Scientific) : Binary64 :=
  scale 3 s.exponent (ofRatio s.negative s.mantissa 1)

end Binary64
end Timelines
