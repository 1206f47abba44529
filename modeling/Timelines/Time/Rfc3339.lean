import Timelines.Text.Decimal
import Timelines.Time.Moment

/-! The written form of a moment, such as `2025-03-01T12:00:00.25+01:00`.

Written: four digits of the year, a fraction of up to nine digits without trailing zeros (absent
when zero), and `Z` for the offset zero. Other years and offsets of a day or more have no written
form. Read: any ASCII character between date and time, any number
of digits in the fraction, of which nine count, and `Z` in either case. The second 60 is read only
where a leap second can be, as the last nanosecond of the minute. -/
namespace Timelines.Moment
open Text

/-- A fraction of a second in nanoseconds, with its point, and nothing for zero. -/
def fractionChars (nanos : Nat) : List Char :=
  if nanos = 0 then []
  else '.' :: ((Decimal.padded 9 nanos).reverse.dropWhile (· == '0')).reverse

def offsetChars (offset : Int) : List Char :=
  if offset = 0 then ['Z']
  else
    let size := offset.natAbs
    (if offset < 0 then '-' else '+') ::
      (Decimal.padded 2 (size / 60) ++ ':' :: Decimal.padded 2 (size % 60))

def chars (m : Moment) : List Char :=
  let date := m.localDate
  let time := m.localTime.toNat
  let second := time / 1000000000
  Decimal.padded 4 date.year.toNat ++ '-' :: Decimal.padded 2 date.month ++
    '-' :: Decimal.padded 2 date.day ++ 'T' :: Decimal.padded 2 (second / 3600) ++
    ':' :: Decimal.padded 2 (second / 60 % 60) ++ ':' :: Decimal.padded 2 (second % 60) ++
    fractionChars (time % 1000000000) ++ offsetChars m.offset

/-- The part of a moment that has no written form, if there is one. -/
def unwritable? (m : Moment) : Option String :=
  if m.localDate.year < 0 ∨ 9999 < m.localDate.year then some "year"
  else if 24 * 60 ≤ m.offset.natAbs then some "offset_hour"
  else none

/-- Whether a moment has a written form. -/
def writable (m : Moment) : Bool := m.unwritable?.isNone

/-- What is said of a part without a written form. -/
def unwritableMessage (part : String) : String :=
  "The " ++ part ++ " component cannot be formatted into the requested format."

/-- The written form. -/
def text (m : Moment) : String := String.ofList m.chars

/-- A given character at the front. -/
def expect? (c : Char) : List Char → Option (List Char)
  | [] => none
  | d :: rest => if d = c then some rest else none

/-- Nanoseconds of a fraction: nine digits count, missing ones are zero. -/
def fractionNanos (digits : List Char) : Nat :=
  (Decimal.read? 0 ((digits ++ List.replicate 9 '0').take 9)).getD 0

/-- A point and at least one digit, or nothing. -/
def readFraction? : List Char → Option (Nat × List Char)
  | '.' :: rest =>
    let digits := rest.takeWhile Decimal.isDigit
    if digits.isEmpty then none
    else some (fractionNanos digits, rest.dropWhile Decimal.isDigit)
  | rest => some (0, rest)

/-- The offset in minutes that ends the text. -/
def readOffset? : List Char → Option Int
  | ['Z'] | ['z'] => some 0
  | sign :: rest => do
    let (hour, rest) ← Decimal.take? 2 rest
    let (minute, rest) ← Decimal.take? 2 (← expect? ':' rest)
    if hour > 23 ∨ minute > 59 ∨ rest ≠ [] then none
    else if sign = '+' then some (hour * 60 + minute)
    else if sign = '-' then some (-(hour * 60 + minute))
    else none
  | [] => none

/-- Leap seconds end the last day of a month in universal time. -/
def endsMonth (m : Moment) : Bool :=
  let date := Date.ofDayNumber (m.nanos / nanosPerDay)
  m.nanos % nanosPerDay = nanosPerDay - 1 && date.day = Date.monthLength date.year date.month

/-- What follows the character between date and time. -/
def separator? : List Char → Option (List Char)
  | [] => none
  | c :: rest => if c.toNat < 128 then some rest else none

def ofChars? (cs : List Char) : Option Moment := do
  let (year, cs) ← Decimal.take? 4 cs
  let (month, cs) ← Decimal.take? 2 (← expect? '-' cs)
  let (day, cs) ← Decimal.take? 2 (← expect? '-' cs)
  let (hour, cs) ← Decimal.take? 2 (← separator? cs)
  let (minute, cs) ← Decimal.take? 2 (← expect? ':' cs)
  let (second, cs) ← Decimal.take? 2 (← expect? ':' cs)
  let (fraction, cs) ← readFraction? cs
  let offset ← readOffset? cs
  let date : Date := ⟨year, month, day⟩
  if ¬date.Valid ∨ hour > 23 ∨ minute > 59 ∨ second > 60 then none
  else
    let leap : Bool := second = 60
    let seconds : Int := date.dayNumber * 86400 + (hour * 3600 + minute * 60 +
      (if leap then 59 else second) : Nat) - offset * 60
    let m : Moment :=
      ⟨seconds * nanosPerSecond + (if leap then 999999999 else fraction : Nat), offset⟩
    if leap && !m.endsMonth then none else some m

/-- Reads a written moment. -/
def parse? (s : String) : Option Moment := ofChars? s.toList

end Timelines.Moment
