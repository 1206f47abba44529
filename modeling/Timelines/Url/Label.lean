import Timelines.Text.Composition
import Timelines.Text.Direction
import Timelines.Text.Joining
import Timelines.Url.HostCharacters
import Timelines.Url.Punycode

/-! The labels of domain names: the parts between points, in the characters they stand for and in
ASCII.

A label with characters beyond ASCII begins with no mark, has joiners only where a script needs
them, and is composed. Where one label of a name is written from right to left, each of them has one
direction throughout. -/
namespace Timelines.Url
open Text

/-- Characters that no name holds. -/
def forbidden (c : Char) : Bool :=
  c.toNat ≤ 0x20 || c.toNat = 0x7F || "%#/:<>?@[\\]^`\x7b|\x7d".toList.contains c

/-- The name that a text stands for, character by character and composed. -/
def plainName? (cs : List Char) : Option (List Char) := do
  let name := composed (← cs.mapM hostChars?).flatten
  if name.any forbidden then none else some name

namespace Label

/-! ### Joiners -/

def joiner : Char := '\u200d'
def nonJoiner : Char := '\u200c'

/-- Whether a joiner may stand between what is before it, the last character first, and after it:
behind a virama, and one that keeps letters apart also between letters that would join. -/
def joinerFits (c : Char) (before after : List Char) : Bool :=
  before.head?.any isVirama ||
    (c == nonJoiner && (before.dropWhile passesJoin).head?.any joinsNext &&
      (after.dropWhile passesJoin).head?.any joinsPrevious)

/-- Whether all joiners behind the characters `before` may stand where they do. -/
def joinersFit (before : List Char) : List Char → Bool
  | [] => true
  | c :: cs =>
    (if c == joiner || c == nonJoiner then joinerFits c before cs else true) &&
      joinersFit (c :: before) cs

/-! ### Directions -/

/-- Whether a label makes its name one of both directions. -/
def turns (cs : List Char) : Bool :=
  cs.any fun c => direction c == .rightToLeft || direction c == .arabicNumber

/-- Whether a label has one direction throughout. -/
def oneWay (cs : List Char) : Bool :=
  let ds := cs.map direction
  let last := (ds.reverse.dropWhile (· == .mark)).head?
  match ds with
  | [] => true
  | .rightToLeft :: _ =>
    !ds.contains .leftToRight && !(ds.contains .europeanNumber && ds.contains .arabicNumber) &&
      (last == some .rightToLeft || last == some .europeanNumber || last == some .arabicNumber)
  | .leftToRight :: _ =>
    !ds.contains .rightToLeft && !ds.contains .arabicNumber &&
      (last == some .leftToRight || last == some .europeanNumber)
  | _ => false

/-! ### Both forms -/

/-- What introduces the ASCII form of a label with other characters. -/
def marker : List Char := "xn--".toList

def isAscii (cs : List Char) : Bool := cs.all (·.toNat < 128)

/-- Whether a label beyond ASCII may stand in a name. -/
def fits (cs : List Char) : Bool :=
  !(cs.head?.any isMark) && joinersFit [] cs && !marker.isPrefixOf cs

/-- The characters of a label that is given in either form. An ASCII form has to be as it would be
written for them. -/
def read? (cs : List Char) : Option (List Char) :=
  if !isAscii cs then (if fits cs then some cs else none)
  else if !marker.isPrefixOf cs then some cs
  else do
    let label ← Punycode.decode? (cs.drop marker.length)
    if isAscii label ∨ !fits label ∨ plainName? label ≠ some label ∨
        Punycode.encode label ≠ cs.drop marker.length then none
    else some label

/-- The ASCII form. -/
def write (cs : List Char) : List Char := if isAscii cs then cs else marker ++ Punycode.encode cs

end Label

/-- The ASCII form of a name whose characters are plain. -/
def asciiName? (name : List Char) : Option (List Char) := do
  let labels ← (splitAll (· == '.') name).mapM Label.read?
  if labels.any Label.turns && !labels.all Label.oneWay then none
  else return List.intercalate ['.'] (labels.map Label.write)

end Timelines.Url
