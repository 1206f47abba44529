import Timelines.Text.Blank
import Timelines.Text.Hex
import Timelines.Tree

/-! Documents of sections with keys and texts, as in INI files.

A section in square brackets holds the keys up to the next one. A key goes as far as an equals sign
or a colon, over several lines if need be, and its text goes to the end of the line; parts of it may
stand in quotes. A backslash begins an escape everywhere. Comments have lines of their own, from the
first character on. -/
namespace Timelines.Ini
open Text

/-- The character of four hexadecimal digits. -/
def code? (cs : List Char) : Option (Char × List Char) := do
  if cs.length < 4 then none
  else
    let n ← Hex.read? 0 (cs.take 4)
    if 0xD800 ≤ n ∧ n ≤ 0xDFFF then none else some (Char.ofNat n, cs.drop 4)

/-- What an escape stands for, given what follows the backslash. A line break behind one does not
count. -/
def escape? : List Char → Option (List Char × List Char)
  | [] => some ([], [])
  | '0' :: cs => some (['\x00'], cs)
  | 'a' :: cs => some (['\x07'], cs)
  | 'b' :: cs => some (['\x08'], cs)
  | 't' :: cs => some (['\t'], cs)
  | 'r' :: cs => some (['\r'], cs)
  | 'n' :: cs => some (['\n'], cs)
  | '\n' :: cs => some ([], cs)
  | 'x' :: cs => (code? cs).map fun (c, cs) => ([c], cs)
  | c :: cs => some ([c], cs)

/-- The text before the first character that `ends` picks, and what begins with that. The end of the
document is one where `mayEnd` says so, and right behind a backslash. -/
def until? (ends : Char → Bool) (mayEnd : Bool) : Nat → List Char → Option (List Char × List Char)
  | 0, _ => none
  | _, [] => if mayEnd then some ([], []) else none
  | fuel + 1, c :: cs =>
    if ends c then some ([], c :: cs)
    else if c = '\\' then
      if cs.isEmpty then some ([], [])
      else do
        let (front, cs) ← escape? cs
        let (text, rest) ← until? ends mayEnd fuel cs
        return (front ++ text, rest)
    else (until? ends mayEnd fuel cs).map fun (text, rest) => (c :: text, rest)

def isBreak (c : Char) : Bool := c == '\n' || c == '\r'

/-- Reads the text of a key on, after what was read of it; behind a part in quotes only blanks at
the end do not count. -/
def textOn? (read : List Char) (first : Bool) : Nat → List Char → Option (List Char × List Char)
  | 0, _ => none
  | _, [] => some (read, [])
  | fuel + 1, c :: cs =>
    if c = '"' ∨ c = '\'' then do
      let (part, rest) ← until? (· == c) false (cs.length + 1) cs
      textOn? (read ++ part) false fuel (rest.drop 1)
    else do
      let (part, rest) ← until? isBreak true (cs.length + 2) (c :: cs)
      let part := if first then strip isBlank part else (part.reverse.dropWhile isBlank).reverse
      return (read ++ part, rest)

/-- The text of a key, given what follows the sign. -/
def text? (cs : List Char) : Option (List Char × List Char) :=
  let cs := cs.dropWhile fun c => isBlank c && !isBreak c
  textOn? [] true (cs.length + 1) cs

/-- What was read: the keys above all sections, the sections, and the name of the last one. -/
structure State where
  top : List (String × Tree)
  sections : List (String × List (String × Tree))
  deriving Inhabited

namespace State

def start : State := ⟨[], []⟩

/-- Sets a key of the last section. -/
def set (s : State) (key : String) (value : Tree) : State :=
  match s.sections.getLast? with
  | none => { s with top := Tree.put key value s.top }
  | some (name, keys) =>
    { s with sections := s.sections.dropLast ++ [(name, Tree.put key value keys)] }

/-- The document: a section takes the place of a key or a section of its name. -/
def entries (s : State) : List (String × Tree) :=
  s.sections.foldl (fun es (name, keys) => Tree.put name (.table keys) es) s.top

end State

def trimmed (cs : List Char) : String := String.ofList (strip isBlank cs)

/-- Blanks and line breaks are left out; tells whether a line begins behind them. -/
def skip (fresh : Bool) : List Char → Bool × List Char
  | [] => (fresh, [])
  | c :: cs => if isBlank c then skip (c == '\n') cs else (fresh, c :: cs)

/-- Reads on; `fresh` tells that a line begins here, and `key` is one whose text is to come. -/
def readOn (s : State) (key : String) : Nat → Bool → List Char → Option State
  | 0, _, _ => none
  | fuel + 1, fresh, cs =>
    match skip fresh cs with
    | (_, []) => some s
    | (fresh, c :: cs) =>
      if c = ';' ∨ c = '#' then
        if fresh then readOn s key fuel true ((cs.dropWhile (· != '\n')).drop 1) else none
      else if c = '[' then do
        let (name, rest) ← until? (· == ']') false (cs.length + 1) cs
        let s := { s with sections := s.sections ++ [(trimmed name, [])] }
        readOn s key fuel false (rest.drop 1)
      else if c = '=' ∨ c = ':' then
        if key.isEmpty then none
        else do
          let (text, rest) ← text? cs
          readOn (s.set key (.text (String.ofList text))) "" fuel false rest
      else do
        let (name, rest) ← until? (fun c => c == '=' || c == ':') false (cs.length + 2) (c :: cs)
        readOn s (trimmed name) fuel false rest

/-- Reads a document. -/
def parse? (text : String) : Option (List (String × Tree)) :=
  (readOn .start "" (text.length + 1) true text.toList).map State.entries

end Timelines.Ini
