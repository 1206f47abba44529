import Timelines.Text.Hex
import Timelines.Text.Search

/-! Sets of characters and rules that put characters in the place of others, written in words.

A set is a list of ranges of code points in hexadecimal, such as `41-5A` or `AA`. A rule such as
`41-5A>61` takes the characters of a range, in order, to those from another one on; with `/2` behind
the range it takes every second one only. A single character may go to several, as by `DF>73.73`, or
to none, as by `AD>`. -/
namespace Timelines.Text

/-- The words of a text between blanks and line breaks. -/
def words (s : String) : List (List Char) :=
  (splitAll (fun c => c == ' ' || c == '\n') s.toList).filter (!·.isEmpty)

structure Range where
  first : Nat
  last : Nat
  deriving DecidableEq, Inhabited

namespace Range

/-- One code point, or the first and the last one. -/
def read? (word : List Char) : Option Range :=
  match splitAll (· == '-') word with
  | [ds] => do
    let n ← Hex.read? 0 ds
    return ⟨n, n⟩
  | [ds, es] => return ⟨← Hex.read? 0 ds, ← Hex.read? 0 es⟩
  | _ => none

/-- The ranges of a table. -/
def list (table : String) : List Range := (words table).filterMap read?

def holds (r : Range) (n : Nat) : Bool := r.first ≤ n && n ≤ r.last

end Range

/-- Whether a character lies in one of the ranges. -/
def within (ranges : List Range) (c : Char) : Bool := ranges.any (·.holds c.toNat)

/-- What takes the characters of a range to others. -/
structure Rule where
  range : Range
  step : Nat
  target : List Nat
  deriving DecidableEq, Inhabited

namespace Rule

def read? (word : List Char) : Option Rule :=
  match splitAll (· == '>') word with
  | [source, target] => do
    let target ← if target.isEmpty then some [] else (splitAll (· == '.') target).mapM (Hex.read? 0)
    match splitAll (· == '/') source with
    | [range] => return ⟨← Range.read? range, 1, target⟩
    | [range, step] => return ⟨← Range.read? range, ← Hex.read? 0 step, target⟩
    | _ => none
  | _ => none

/-- The rules of a table. -/
def list (table : String) : List Rule := (words table).filterMap read?

/-- What stands in the place of a character that the rule is about. -/
def image? (r : Rule) (c : Char) : Option (List Char) :=
  let n := c.toNat
  if r.range.holds n ∧ (n - r.range.first) % r.step = 0 then
    some (r.target.map fun m => Char.ofNat (m + (n - r.range.first)))
  else none

end Rule

/-- What the first rule about a character puts in its place. -/
def replaced? (rules : List Rule) (c : Char) : Option (List Char) :=
  rules.findSome? (·.image? c)

end Timelines.Text
