import Timelines.Json.Doc
import Timelines.Text.Hex

/-! The smallest parts of JSON text: words, numbers and strings.

Each reader gets the text after the character that told what comes, and gives the part and the text
behind it, or the break. -/
namespace Timelines.Json
open Text

def isSpace (c : Char) : Bool := c == ' ' || c == '\n' || c == '\t' || c == '\r'

def skipSpace (cs : List Char) : List Char := cs.dropWhile isSpace

/-- The rest of a word. -/
def readWord : List Char → List Char → Except Break (List Char)
  | [], cs => .ok cs
  | _ :: _, [] => .error .truncated
  | w :: word, c :: cs => if w = c then readWord word cs else .error .malformed

/-- A number breaks off: only a reader of numbers sees that the text ended. -/
def brokenNumber : List Char → Break
  | [] => ⟨.truncated, .malformed⟩
  | _ => .malformed

/-- A nonempty run of digits. -/
def readDigits (cs : List Char) : Except Break (List Char × List Char) :=
  match cs.takeWhile Decimal.isDigit with
  | [] => .error (brokenNumber cs)
  | ds => .ok (ds, cs.dropWhile Decimal.isDigit)

/-- Digits without a leading zero, unless zero is all. -/
def readWhole (cs : List Char) : Except Break (List Char × List Char) := do
  match ← readDigits cs with
  | ('0' :: _ :: _, _) => .error .malformed
  | r => return r

/-- What follows a point. -/
def readFraction : List Char → Except Break (Option (List Char) × List Char)
  | '.' :: cs => do
    let (ds, cs) ← readDigits cs
    return (some ds, cs)
  | cs => .ok (none, cs)

/-- The power of ten, with its sign. -/
def readPower : List Char → Except Break (Option Int × List Char)
  | c :: cs =>
    if c = 'e' ∨ c = 'E' then do
      let (negative, cs) :=
        match cs with
        | '+' :: cs => (false, cs)
        | '-' :: cs => (true, cs)
        | cs => (false, cs)
      let (ds, cs) ← readDigits cs
      let size : Nat := (Decimal.read? 0 ds).getD 0
      return (some (if negative then -size else size), cs)
    else .ok (none, c :: cs)
  | [] => .ok (none, [])

/-- A number, from its first digit on. -/
def readNumber (negative : Bool) (cs : List Char) : Except Break (Number × List Char) := do
  let (whole, cs) ← readWhole cs
  let (fraction, cs) ← readFraction cs
  let (power, cs) ← readPower cs
  match fraction, power with
  | none, none => return (.integer negative ((Decimal.read? 0 whole).getD 0), cs)
  | _, _ => return (.real (.ofLeadingDigits negative whole (fraction.getD []) (power.getD 0)), cs)

/-- Whether at least four bytes of text are left. -/
def fourBytesLeft (cs : List Char) : Bool :=
  (cs.take 4).foldl (fun n c => n + c.utf8Size) 0 ≥ 4

/-- The four digits of an escaped code unit. -/
def readUnit (cs : List Char) : Except Break (Nat × List Char) :=
  if fourBytesLeft cs then
    match Hex.read? 0 (cs.take 4) with
    | some n => .ok (n, cs.drop 4)
    | none => .error .malformed
  else .error .truncated

/-- One character of a string. Half of a surrogate pair is no character: it is passed over. -/
inductive Piece
  | char (c : Char)
  | half

/-- The second half of a surrogate pair, given the first. -/
def readPair (first : Nat) : List Char → Except Break (Piece × List Char)
  | [] => .error .truncated
  | '\\' :: [] => .error .truncated
  | '\\' :: 'u' :: cs => do
    let (second, rest) ← readUnit cs
    if 0xDC00 ≤ second ∧ second ≤ 0xDFFF then
      return (.char (Char.ofNat (0x10000 + (first - 0xD800) * 0x400 + (second - 0xDC00))), rest)
    else return (.half, '\\' :: 'u' :: cs)
  | cs => .ok (.half, cs)

/-- What follows a backslash. -/
def readEscape : List Char → Except Break (Piece × List Char)
  | [] => .error .truncated
  | '"' :: cs => .ok (.char '"', cs)
  | '\\' :: cs => .ok (.char '\\', cs)
  | '/' :: cs => .ok (.char '/', cs)
  | 'b' :: cs => .ok (.char '\x08', cs)
  | 'f' :: cs => .ok (.char '\x0c', cs)
  | 'n' :: cs => .ok (.char '\n', cs)
  | 'r' :: cs => .ok (.char '\r', cs)
  | 't' :: cs => .ok (.char '\t', cs)
  | 'u' :: cs => do
    let (unit, cs) ← readUnit cs
    if 0xDC00 ≤ unit ∧ unit ≤ 0xDFFF then return (.half, cs)
    else if 0xD800 ≤ unit ∧ unit ≤ 0xDBFF then readPair unit cs
    else return (.char (Char.ofNat unit), cs)
  | _ => .error .malformed

/-- A string with the characters read so far in reverse, or the fault that spoilt it. -/
abbrev Text := Except Fault (List Char)

def Piece.addTo (t : Json.Text) : Piece → Json.Text
  | char c => t.map (c :: ·)
  | half => t.bind fun _ => .error .malformed

/-- A break inside a string: a reader may have met a fault before. -/
def spoil (t : Json.Text) (b : Break) : Break :=
  match t with
  | .ok _ => b
  | .error f => ⟨f, b.skipping⟩

/-- The characters of a string up to its closing quote. The fuel is more than the length of the
text. -/
def readChars : Nat → Json.Text → List Char → Except Break (Except Fault String × List Char)
  | 0, t, _ => .error (spoil t .truncated)
  | _, t, [] => .error (spoil t .truncated)
  | fuel + 1, t, c :: cs =>
    if c = '"' then .ok (t.map fun r => String.ofList r.reverse, cs)
    else if c = '\\' then
      match readEscape cs with
      | .ok (piece, rest) => readChars fuel (piece.addTo t) rest
      | .error b => .error (spoil t b)
    else if c.toNat < 0x20 then .error (spoil t .malformed)
    else readChars fuel (t.map (c :: ·)) cs

/-- A string after its opening quote. -/
def readQuoted (fuel : Nat) (cs : List Char) : Except Break (Except Fault String × List Char) :=
  readChars fuel (.ok []) cs

end Timelines.Json
