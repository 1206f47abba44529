import Timelines.Number.Word
import Timelines.Text.Hex
import Timelines.Text.Search
import Timelines.Time.Rfc3339
import Timelines.Toml.Value

/-! Numbers, truth values and dates of TOML: all that is written without quotes. -/
namespace Timelines.Toml
open Text

/-- Digits with single underscores between them, without the underscores. -/
def digits? (isDigit : Char → Bool) (cs : List Char) : Option (List Char) :=
  let parts := splitAll (· == '_') cs
  if parts.any (·.isEmpty) ∨ !parts.all (·.all isDigit) then none else some parts.flatten

def isBinary (c : Char) : Bool := c == '0' || c == '1'

def isOctal (c : Char) : Bool := Decimal.isDigit c && c.toNat < 56

/-- The number that digits name in a base. -/
def inBase (base : Nat) (ds : List Char) : Int :=
  (ds.foldl (fun n c => base * n + (Hex.value? c).getD 0) 0 : Nat)

/-- Integers have 64 bits. -/
def bounded (n : Int) : Option Value :=
  if Number.Word.holdsSigned 64 n then some (.integer n) else none

/-- A sign and what follows it. -/
def sign (cs : List Char) : Bool × List Char :=
  match cs with
  | '-' :: cs => (true, cs)
  | '+' :: cs => (false, cs)
  | cs => (false, cs)

/-- Digits without a leading zero. -/
def whole? (cs : List Char) : Option (List Char) :=
  match digits? Decimal.isDigit cs with
  | some ('0' :: _ :: _) => none
  | ds => ds

def integer? (cs : List Char) : Option Value :=
  match cs with
  | '0' :: 'x' :: ds => (digits? (fun c => (Hex.value? c).isSome) ds).bind fun ds =>
      bounded (inBase 16 ds)
  | '0' :: 'o' :: ds => (digits? isOctal ds).bind fun ds => bounded (inBase 8 ds)
  | '0' :: 'b' :: ds => (digits? isBinary ds).bind fun ds => bounded (inBase 2 ds)
  | cs =>
    let (negative, cs) := sign cs
    (whole? cs).bind fun ds => bounded (if negative then -inBase 10 ds else inBase 10 ds)

/-- A power of ten behind its letter. -/
def power? (cs : List Char) : Option Int :=
  match cs with
  | [] => some 0
  | _ :: cs =>
    let (negative, cs) := sign cs
    (digits? Decimal.isDigit cs).map fun ds => if negative then -inBase 10 ds else inBase 10 ds

/-- Numbers with a point or a power, none of which is too large. -/
def float? (cs : List Char) : Option Value :=
  let (negative, cs) := sign cs
  if cs = "inf".toList then some (.float (.infinite negative))
  else if cs = "nan".toList then some (.float .nan)
  else if cs.all fun c => c != '.' && c != 'e' && c != 'E' then none
  else do
    let (front, powerText) := cut (fun c => c == 'e' || c == 'E') cs
    let (wholeText, fractionText) := cut (· == '.') front
    let ds ← whole? wholeText
    let fraction ←
      match fractionText with
      | [] => some []
      | _ :: cs => digits? Decimal.isDigit cs
    let power ← power? powerText
    let x := Binary64.ofScientific (.ofDigits negative ds fraction power)
    if x.isFinite then some (.float x) else none

/-- Seconds of a time with their fraction in canonical text, and what follows them. They may be left
out. -/
def seconds? : List Char → Option (List Char × List Char)
  | ':' :: rest => do
    let (second, rest) ← Decimal.take? 2 rest
    let (nanos, after) ← Moment.readFraction? rest
    let fraction :=
      if after = rest then [] else if nanos = 0 then ".0".toList else Moment.fractionChars nanos
    if second > 60 then none else some (':' :: Decimal.padded 2 second ++ fraction, after)
  | rest => some ([], rest)

/-- A time of day in canonical text, and what follows it. -/
def time? (cs : List Char) : Option (List Char × List Char) := do
  let (hour, rest) ← Decimal.take? 2 cs
  let (minute, rest) ← Decimal.take? 2 (← Moment.expect? ':' rest)
  let (seconds, rest) ← seconds? rest
  if hour > 23 ∨ minute > 59 then none
  else some (Decimal.padded 2 hour ++ ':' :: Decimal.padded 2 minute ++ seconds, rest)

/-- A date in canonical text, and what follows it. -/
def day? (cs : List Char) : Option (List Char × List Char) := do
  let (year, rest) ← Decimal.take? 4 cs
  let (month, rest) ← Decimal.take? 2 (← Moment.expect? '-' rest)
  let (day, rest) ← Decimal.take? 2 (← Moment.expect? '-' rest)
  if (⟨year, month, day⟩ : Date).Valid then some (cs.take 10, rest) else none

/-- An offset in canonical text; nothing for a time without one. -/
def offset? : List Char → Option (List Char)
  | [] => some []
  | ['Z'] | ['z'] => some ['Z']
  | sign :: rest => do
    let (hour, rest) ← Decimal.take? 2 rest
    let (minute, rest) ← Decimal.take? 2 (← Moment.expect? ':' rest)
    if (sign ≠ '+' ∧ sign ≠ '-') ∨ rest ≠ [] ∨ hour > 23 ∨ minute > 59 then none
    else
      some ((if hour = 0 ∧ minute = 0 then '+' else sign) ::
        (Decimal.padded 2 hour ++ ':' :: Decimal.padded 2 minute))

/-- A date, a time, or a date and a time with or without an offset. -/
def date? (cs : List Char) : Option Value :=
  let whole : Option (List Char) :=
    match day? cs with
    | some (day, []) => some day
    | some (day, c :: rest) =>
      if c = 'T' ∨ c = 't' ∨ c = ' ' then do
        let (time, rest) ← time? rest
        return day ++ 'T' :: (time ++ (← offset? rest))
      else none
    | none =>
      match time? cs with
      | some (time, []) => some time
      | _ => none
  whole.map fun cs => .date (String.ofList cs)

/-- A value written without quotes. -/
def bare? (cs : List Char) : Option Value :=
  if cs = "true".toList then some (.bool true)
  else if cs = "false".toList then some (.bool false)
  else ((integer? cs).or (date? cs)).or (float? cs)

end Timelines.Toml
