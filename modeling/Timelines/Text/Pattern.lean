import Timelines.Text.Blank
import Timelines.Text.Case
import Timelines.Text.Letters

/-! Patterns that texts match as a whole.

A pattern tries its ways in order, and a way that has come to the pattern's end rules out all ways
behind it, even where it turns out that the text goes on. So `a|ab` does not match `ab`. -/
namespace Timelines.Text

/-! ### Sets of characters -/

inductive CharKind
  | decimal
  | wordly
  | blank
  deriving DecidableEq, Inhabited

def CharKind.holds : CharKind → Char → Bool
  | decimal, c => isDecimal c
  | wordly, c => isWordly c
  | blank, c => isBlank c

/-- What a set is made of: a range, a kind, or all that is not of a kind. -/
inductive CharItem
  | range (r : Range)
  | kind (k : CharKind)
  | unkind (k : CharKind)
  deriving DecidableEq, Inhabited

def CharItem.holds : CharItem → Char → Bool
  | range r, c => r.holds c.toNat
  | kind k, c => k.holds c
  | unkind k, c => !k.holds c

/-- The characters of some items, or all others; in either letter case if `folded`. -/
structure CharSet where
  items : List CharItem
  others : Bool
  folded : Bool
  deriving DecidableEq, Inhabited

namespace CharSet

def only (c : Char) (folded : Bool) : CharSet := ⟨[.range ⟨c.toNat, c.toNat⟩], false, folded⟩

def holds (s : CharSet) (c : Char) : Bool :=
  let forms := if s.folded then [c, c.toLower, c.toUpper] ++ lowerChar c else [c]
  (forms.any fun c => s.items.any (·.holds c)) != s.others

end CharSet

/-! ### Patterns -/

inductive Pattern
  /-- The empty text. -/
  | nothing
  | one (set : CharSet)
  | either (first second : Pattern)
  | both (first second : Pattern)
  /-- Any number of times; as often as may be, or as seldom. -/
  | many (often : Bool) (p : Pattern)
  /-- The empty text at the beginning or the end. -/
  | beginning
  | ending
  deriving DecidableEq, Inhabited

namespace Pattern

/-- Whether the pattern may be over at the end of the text; `first` tells that the text begins
here. -/
def mayEnd (first : Bool) : Pattern → Bool
  | nothing | many .. | ending => true
  | one _ => false
  | beginning => first
  | either p q => p.mayEnd first || q.mayEnd first
  | both p q => p.mayEnd first && q.mayEnd first

/-- What is left of a pattern behind a character, for each of its ways; nothing for a way that is
over before the character. -/
def ways (first : Bool) (c : Char) : Pattern → List (Option Pattern)
  | nothing => [none]
  | one set => if set.holds c then [some nothing] else []
  | beginning => if first then [none] else []
  | ending => []
  | either p q => p.ways first c ++ q.ways first c
  | both p q => (p.ways first c).flatMap fun
    | some p => [some (both p q)]
    | none => q.ways first c
  | many often p =>
    let again := (p.ways first c).filterMap fun rest =>
      rest.map fun p' => some (both p' (many often p))
    if often then again ++ [none] else none :: again

/-- Whether the rest of a text matches one of the patterns, which are tried in order. -/
def matchFrom (first : Bool) (ps : List Pattern) : List Char → Bool
  | [] => ps.any (mayEnd first)
  | c :: cs =>
    let next := (ps.flatMap (ways first c)).takeWhile Option.isSome
    matchFrom false (next.filterMap id).eraseDups cs

/-- Whether a text matches the pattern as a whole. -/
def covers (p : Pattern) (text : String) : Bool := matchFrom true [p] text.toList

/-! ### The written form -/

/-- How letters and the point are taken. -/
structure Manner where
  folded : Bool
  /-- The point stands for line breaks, too. -/
  dotAll : Bool
  deriving DecidableEq, Inhabited

/-- The characters that a sign after a backslash stands for. -/
def escaped? (c : Char) : Option CharItem :=
  let only (n : Nat) : Option CharItem := some (.range ⟨n, n⟩)
  match c with
  | 'd' => some (.kind .decimal)
  | 'D' => some (.unkind .decimal)
  | 'w' => some (.kind .wordly)
  | 'W' => some (.unkind .wordly)
  | 's' => some (.kind .blank)
  | 'S' => some (.unkind .blank)
  | 'a' => only 7
  | 'f' => only 12
  | 't' => only 9
  | 'n' => only 10
  | 'r' => only 13
  | 'v' => only 11
  | c => if c.toNat < 0x80 ∧ !c.isAlphanum ∧ c.toNat > 0x20 then only c.toNat else none

/-- One end of a range between square brackets, or a kind. -/
def item? : List Char → Option (CharItem × List Char)
  | [] | '[' :: _ => none
  | '\\' :: c :: cs => (escaped? c).map (·, cs)
  | c :: cs => some (.range ⟨c.toNat, c.toNat⟩, cs)

/-- The items up to a closing bracket. -/
def items? (found : List CharItem) : Nat → List Char → Option (List CharItem × List Char)
  | 0, _ => none
  | fuel + 1, cs =>
    match cs with
    | ']' :: rest =>
      if found.isEmpty then items? [.range ⟨93, 93⟩] fuel rest else some (found, rest)
    | cs => do
      let (low, rest) ← item? cs
      match low, rest with
      | .range r, '-' :: ']' :: rest => some (found ++ [.range r, .range ⟨45, 45⟩], rest)
      | .range r, '-' :: rest => do
        match ← item? rest with
        | (.range s, rest) =>
          if r.first ≤ s.last then items? (found ++ [.range ⟨r.first, s.last⟩]) fuel rest else none
        | _ => none
      | item, rest => items? (found ++ [item]) fuel rest

/-- Letters that change the manner, behind a minus sign back. -/
def manner? (on : Bool) (m : Manner) : List Char → Option (Manner × List Char)
  | 'i' :: cs => manner? on { m with folded := on } cs
  | 's' :: cs => manner? on { m with dotAll := on } cs
  | 'm' :: cs | 'u' :: cs => manner? on m cs
  | '-' :: cs => if on then manner? false m cs else none
  | cs => some (m, cs)

/-- What a group begins with: the manner in it, and whether it only changes the manner. -/
def groupStart? (m : Manner) : List Char → Option (Manner × Bool × List Char)
  | '?' :: 'P' :: '<' :: cs | '?' :: '<' :: cs =>
    match (cs.dropWhile isWordly), cs.head? with
    | '>' :: rest, some c =>
      if c == '_' || !c.isDigit && c != '>' then some (m, false, rest) else none
    | _, _ => none
  | '?' :: cs =>
    match manner? true m cs with
    | some (m, ':' :: cs) => some (m, false, cs)
    | some (m, ')' :: cs) => some (m, true, cs)
    | _ => none
  | cs => some (m, false, cs)

/-- What is said to happen again: none or more, one or more, or none or one. -/
def repeated (sign : Char) (often : Bool) (p : Pattern) : Pattern :=
  if sign = '*' then many often p
  else if sign = '+' then both p (many often p)
  else if often then either p nothing
  else either nothing p

/-- Reads on after the patterns that stand in a row so far, the latest first, up to the end of the
group: what the group is, and what follows. -/
def readOn (m : Manner) (row : List Pattern) : Nat → List Char → Option (Pattern × List Char)
  | 0, _ => none
  | fuel + 1, cs =>
    let all := row.foldl (fun rest p => both p rest) nothing
    match cs with
    | [] | ')' :: _ => some (all, cs)
    | '|' :: rest => (readOn m [] fuel rest).map fun (p, rest) => (either all p, rest)
    | '(' :: rest => do
      let (inner, changes, rest) ← groupStart? m rest
      if changes then readOn inner row fuel rest
      else
        match ← readOn inner [] fuel rest with
        | (p, ')' :: rest) => readOn m (p :: row) fuel rest
        | _ => none
    | '[' :: '^' :: rest => do
      let (items, rest) ← items? [] fuel rest
      readOn m (one ⟨items, true, m.folded⟩ :: row) fuel rest
    | '[' :: rest => do
      let (items, rest) ← items? [] fuel rest
      readOn m (one ⟨items, false, m.folded⟩ :: row) fuel rest
    | '.' :: rest =>
      let spared := if m.dotAll then [] else [.range ⟨10, 10⟩]
      readOn m (one ⟨spared, true, false⟩ :: row) fuel rest
    | '^' :: rest => readOn m (beginning :: row) fuel rest
    | '$' :: rest => readOn m (ending :: row) fuel rest
    | '\\' :: 'A' :: rest => readOn m (beginning :: row) fuel rest
    | '\\' :: 'z' :: rest => readOn m (ending :: row) fuel rest
    | '\\' :: c :: rest => do
      let item ← escaped? c
      readOn m (one ⟨[item], false, m.folded⟩ :: row) fuel rest
    | '\x7b' :: _ | '\\' :: [] => none
    | c :: rest =>
      if c = '*' ∨ c = '+' ∨ c = '?' then
        match row with
        | [] => none
        | p :: row =>
          if rest.head? = some '?' then readOn m (repeated c false p :: row) fuel (rest.drop 1)
          else readOn m (repeated c true p :: row) fuel rest
      else readOn m (one (.only c m.folded) :: row) fuel rest

/-- The pattern that is written in a certain way. -/
def parse? (s : String) : Option Pattern :=
  match readOn ⟨false, false⟩ [] (s.length + 1) s.toList with
  | some (p, []) => some p
  | _ => none

end Pattern
end Timelines.Text
