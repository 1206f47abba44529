import Timelines.Number.Binary64
import Timelines.Text.Case

/-! Numbers of the 64-bit format in the common notation: a sign, digits with a point before, between
or behind them, and a power of ten; or a word for what is not finite. -/
namespace Timelines.Binary64
open Text

/-- A sign, which may be missing: whether it is a minus sign, and what follows. -/
def signed : List Char → Bool × List Char
  | '-' :: cs => (true, cs)
  | '+' :: cs => (false, cs)
  | cs => (false, cs)

/-- A power of ten behind its letter, or nothing. -/
def power? : List Char → Option Int
  | [] => some 0
  | c :: cs =>
    if c = 'e' ∨ c = 'E' then
      let (negative, digits) := signed cs
      (Decimal.natural? digits).map fun n => if negative then -n else n
    else none

/-- A number without its sign. -/
def unsigned? (negative : Bool) (cs : List Char) : Option Binary64 := do
  let whole := cs.takeWhile Decimal.isDigit
  let rest := cs.dropWhile Decimal.isDigit
  let (fraction, rest) :=
    if rest.head? = some '.' then
      ((rest.drop 1).takeWhile Decimal.isDigit, (rest.drop 1).dropWhile Decimal.isDigit)
    else ([], rest)
  if whole.isEmpty ∧ fraction.isEmpty then none
  else return ofScientific (.ofDigits negative whole fraction (← power? rest))

/-- Reads a number; words are read in any letter case. -/
def ofText? (s : String) : Option Binary64 :=
  let (negative, cs) := signed s.toList
  match String.ofList (lower cs) with
  | "inf" | "infinity" => some (infinite negative)
  | "nan" => some nan
  | _ => unsigned? negative cs

end Timelines.Binary64
