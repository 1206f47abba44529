import Timelines.Http.Basic
import Timelines.Number.Word
import Timelines.Text.Blank
import Timelines.Text.Hex
import Timelines.Text.Search

/-! Responses as they come over the wire: header lines, an empty line, and a body.

The headers tell where the body ends: with the last of its chunks, after a number of bytes, or with
the connection. Headers that no one may send, and lengths that contradict each other, spoil a
response as a whole; a body that ends too soon is only missed by one who reads it. -/
namespace Timelines.Http
open Text

/-! ### Header lines -/

/-- Characters of a header's name. -/
def nameChar (c : Char) : Bool := c.isAlphanum || "!#$%&'*+-.^_`|~".toList.contains c

/-- Characters of a header's value. -/
def valueChar (c : Char) : Bool := c == '\t' || (0x20 ≤ c.toNat && c.toNat ≠ 0x7F)

/-- What follows a line break. -/
def lineEnd? : List Char → Option (List Char)
  | '\r' :: '\n' :: cs => some cs
  | '\n' :: cs => some cs
  | _ => none

/-- Header lines up to the empty line, and what follows it. -/
def readHead? : Nat → List Char → Option (Headers × List Char)
  | 0, _ => none
  | fuel + 1, cs =>
    match lineEnd? cs with
    | some body => some ([], body)
    | none =>
      let name := cs.takeWhile nameChar
      match name.isEmpty, cs.dropWhile nameChar with
      | false, ':' :: cs => do
        let value := strip (fun c => c == ' ' || c == '\t') (cs.takeWhile valueChar)
        let rest ← lineEnd? (cs.dropWhile valueChar)
        let (headers, body) ← readHead? fuel rest
        return ((String.ofList name, String.ofList value) :: headers, body)
      | _, _ => none

/-! ### Bodies -/

/-- Where a body ends. -/
inductive Framing
  | chunked
  | counted (bytes : Nat)
  | untilClosed
  deriving DecidableEq, Inhabited

/-- The values of all headers of a name, each split at its commas. -/
def Headers.values (headers : Headers) (name : String) : List (List Char) :=
  (headers.filter fun h => lowerText h.1 == name).flatMap fun h =>
    (splitAll (· == ',') h.2.toList).map (strip isBlank)

/-- Where a body ends; nothing where its lengths contradict each other. -/
def Headers.framing? (headers : Headers) : Option Framing :=
  let encodings := headers.values "transfer-encoding"
  match encodings.getLast?, headers.values "content-length" with
  | some last, _ => some (if lower last = "chunked".toList then .chunked else .untilClosed)
  | none, [] => some .untilClosed
  | none, first :: others => do
    let n ← Decimal.natural? first
    if others.all (Decimal.natural? · = some n) then some (.counted n) else none

/-- A line break between chunks. -/
def chunkEnd? : List UInt8 → Option (List UInt8)
  | 0x0D :: 0x0A :: bs => some bs
  | _ => none

/-- What follows the size of a chunk, up to the end of its line. -/
def sizeEnd? (bs : List UInt8) : Option (List UInt8) :=
  match bs.dropWhile fun b => b == 0x20 || b == 0x09 with
  | 0x3B :: bs =>
    let extension := bs.takeWhile (· != 0x0D)
    if extension.contains 0x0A then none else chunkEnd? (bs.dropWhile (· != 0x0D))
  | bs => chunkEnd? bs

/-- Whether lines end with an empty one. -/
def endsLines : Nat → List UInt8 → Bool
  | 0, _ => false
  | fuel + 1, bs =>
    match bs with
    | 0x0D :: bs => bs.head? == some 0x0A
    | bs => (chunkEnd? (bs.dropWhile (· != 0x0D))).any (endsLines fuel)

/-- The bytes of all chunks, the last of which is empty. -/
def joinChunks? : Nat → List UInt8 → Option (List UInt8)
  | 0, _ => none
  | fuel + 1, bs => do
    let digits := (bs.map fun b => Char.ofNat b.toNat).takeWhile fun c => (Hex.value? c).isSome
    let size ← if digits.isEmpty then none else Hex.read? 0 digits
    let rest ← sizeEnd? (bs.drop digits.length)
    if Number.Word.count 64 ≤ size then none
    else if size = 0 then if endsLines (rest.length + 1) rest then some [] else none
    else if rest.length < size then none
    else do
      let more ← joinChunks? fuel (← chunkEnd? (rest.drop size))
      return rest.take size ++ more

/-- The body that some bytes hold. -/
def Framing.body? (f : Framing) (bs : List UInt8) : Option String :=
  let whole : Option (List UInt8) :=
    match f with
    | chunked => joinChunks? (bs.length + 1) bs
    | counted n => if n ≤ bs.length then some (bs.take n) else none
    | untilClosed => some bs
  whole.bind fun bs => String.fromUTF8? (ByteArray.mk bs.toArray)

/-! ### Responses -/

/-- What comes of a status and the text behind its line. Statuses below 200 only announce another
response, and those to 204 and 304 have no body. -/
def understand (status : Nat) (text : String) : Conclusion :=
  let cs := text.toList
  match readHead? (cs.length + 1) cs with
  | none => .error .closed
  | some (headers, body) =>
    if status < 100 ∨ 999 < status then .error .closed
    else if status = 101 ∨ status = 204 ∨ status = 304 then .ok ⟨status, headers, some ""⟩
    else if status < 200 then .error .timedOut
    else
      match headers.framing? with
      | none => .error .closed
      | some framing => .ok ⟨status, headers, framing.body? (String.ofList body).toUTF8.toList⟩

end Timelines.Http
