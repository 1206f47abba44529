/-! Blank characters and trimming.

A character is blank when it has the Unicode property White_Space. The set is closed: no later
edition of the standard has added to it or taken from it. -/
namespace Timelines.Text

/-- Characters with the property White_Space. -/
def isBlank (c : Char) : Bool :=
  let n := c.toNat
  (0x9 ≤ n && n ≤ 0xD) || n == 0x20 || n == 0x85 || n == 0xA0 || n == 0x1680 ||
    (0x2000 ≤ n && n ≤ 0x200A) || n == 0x2028 || n == 0x2029 || n == 0x202F || n == 0x205F ||
    n == 0x3000

/-- A list without the leading and trailing characters that `p` picks. -/
def strip (p : Char → Bool) (cs : List Char) : List Char :=
  ((cs.dropWhile p).reverse.dropWhile p).reverse

/-- A text without its leading and trailing blanks. -/
def trim (s : String) : String :=
  String.ofList (strip isBlank s.toList)

/-- Texts that hold nothing but blanks, the empty text among them. -/
def blank (s : String) : Bool :=
  s.toList.all isBlank

end Timelines.Text
