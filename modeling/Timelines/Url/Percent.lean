import Timelines.Text.Hex

/-! Percent-encoding: a character that may not stand for itself is written as the bytes of its UTF-8
form, each with a percent sign and two upper-case digits. Control characters and all characters
beyond ASCII are always encoded; each part of a URL adds its own. -/
namespace Timelines.Url.Percent
open Text

/-- Encoded everywhere. -/
def always (c : Char) : Bool := c.toNat < 0x20 || 0x7E < c.toNat

/-- Encoded in a fragment. -/
def inFragment (c : Char) : Bool := always c || " \"<>`".toList.contains c

/-- Encoded in a query; in one of a special scheme the apostrophe is, too. -/
def inQuery (special : Bool) (c : Char) : Bool :=
  always c || " \"#<>".toList.contains c || (special && c == '\'')

/-- Encoded in a path. -/
def inPath (c : Char) : Bool := inFragment c || "#?\x7b\x7d".toList.contains c

/-- Encoded in a segment that is put into a path as a whole. -/
def inSegment (special : Bool) (c : Char) : Bool :=
  inPath c || c == '/' || c == '%' || (special && c == '\\')

/-- Encoded in a user's name and password. -/
def inUserinfo (c : Char) : Bool := inPath c || "/:;=@[\\]^|".toList.contains c

def encodeByte (b : UInt8) : List Char :=
  ['%', Hex.digitUpper (b.toNat / 16), Hex.digitUpper (b.toNat % 16)]

/-- A text in which the characters that `set` picks are encoded. -/
def encode (set : Char → Bool) (cs : List Char) : List Char :=
  cs.flatMap fun c => if set c then (String.utf8EncodeChar c).flatMap encodeByte else [c]

/-- The bytes of a text in which percent signs with two digits stand for a byte. -/
def decode : List Char → List UInt8
  | '%' :: a :: b :: rest =>
    match Hex.value? a, Hex.value? b with
    | some x, some y => UInt8.ofNat (16 * x + y) :: decode rest
    | _, _ => String.utf8EncodeChar '%' ++ decode (a :: b :: rest)
  | c :: rest => String.utf8EncodeChar c ++ decode rest
  | [] => []

end Timelines.Url.Percent
