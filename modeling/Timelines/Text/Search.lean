/-! Looking for one text inside another, and cutting texts apart. -/
namespace Timelines.Text

/-- Whether `part` stands somewhere in a text. -/
def mentionsChars (part : List Char) : List Char → Bool
  | [] => part.isEmpty
  | c :: cs => part.isPrefixOf (c :: cs) || mentionsChars part cs

/-- Whether `part` stands somewhere in a text. -/
def mentions (text part : String) : Bool := mentionsChars part.toList text.toList

/-- The parts between the characters that `p` picks; there is always one more part than picks. -/
def splitAll (p : Char → Bool) : List Char → List (List Char)
  | [] => [[]]
  | c :: cs =>
    if p c then [] :: splitAll p cs
    else
      match splitAll p cs with
      | part :: parts => (c :: part) :: parts
      | [] => [[c]]

/-- What stands before the first character that `p` picks, and what begins with it. -/
def cut (p : Char → Bool) (cs : List Char) : List Char × List Char :=
  (cs.takeWhile fun c => !p c, cs.dropWhile fun c => !p c)

/-- What stands before and after the first `part`. -/
def splitFirst? (part : List Char) : List Char → Option (List Char × List Char)
  | [] => if part.isEmpty then some ([], []) else none
  | c :: cs =>
    if part.isPrefixOf (c :: cs) then some ([], (c :: cs).drop part.length)
    else (splitFirst? part cs).map fun (before, after) => (c :: before, after)

end Timelines.Text
