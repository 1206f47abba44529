import Timelines.Text.Decimal

/-! Numbers as decimal text gives them: a sign, a mantissa and a power of ten. -/
namespace Timelines

/-- The number `± mantissa · 10 ^ exponent`. -/
structure Scientific where
  negative : Bool
  mantissa : Nat
  exponent : Int
  deriving DecidableEq, Inhabited

namespace Scientific
open Text

/-- From the digits before and after the point and the power written behind them. -/
def ofDigits (negative : Bool) (whole fraction : List Char) (power : Int) : Scientific :=
  ⟨negative, (Decimal.read? 0 (whole ++ fraction)).getD 0, power - fraction.length⟩

/-- The power of ten just above the number: it lies below `10 ^ magnitude`. -/
def magnitude (s : Scientific) : Int := (Nat.toDigits 10 s.mantissa).length + s.exponent

end Scientific
end Timelines
