import Timelines.Number.Notation
import Timelines.Number.Word
import Timelines.Text.Blank
import Timelines.Text.Hex
import Timelines.Text.Letters
import Timelines.Tree

/-! Documents of JSON5: JSON with comments, names without quotes, texts in either kind of quotes,
commas behind last members, and more ways to write numbers. -/
namespace Timelines.Json5
open Text

/-! ### Blanks and comments -/

def isBreak (c : Char) : Bool := c == '\n' || c == '\r' || c == '\u2028' || c == '\u2029'

/-- Blanks, and the mark of a text's byte order. -/
def isSpace (c : Char) : Bool := (isBlank c && c != '\u0085') || c == '\ufeff'

/-- The text behind a comment with an end of its own. -/
def closeComment? : List Char → Option (List Char)
  | [] => none
  | '*' :: '/' :: cs => some cs
  | _ :: cs => closeComment? cs

/-- Blanks and comments are left out. -/
def skip? : Nat → List Char → Option (List Char)
  | 0, _ => none
  | fuel + 1, cs =>
    match cs.dropWhile isSpace with
    | '/' :: '/' :: cs => skip? fuel (cs.dropWhile (!isBreak ·))
    | '/' :: '*' :: cs => (closeComment? cs).bind (skip? fuel)
    | cs => some cs

def skipAll? (cs : List Char) : Option (List Char) := skip? (cs.length + 1) cs

/-! ### Texts and names -/

/-- So many hexadecimal digits. -/
def digits? (width : Nat) (cs : List Char) : Option (Nat × List Char) :=
  if cs.length < width then none else (Hex.read? 0 (cs.take width)).map (·, cs.drop width)

/-- A character by its code in UTF-16: four digits, or twice so many with an escape between. -/
def unit? (cs : List Char) : Option (Char × List Char) := do
  let (n, rest) ← digits? 4 cs
  if n < 0xD800 ∨ 0xDFFF < n then some (Char.ofNat n, rest)
  else
    match rest with
    | '\\' :: 'u' :: rest => do
      let (m, rest) ← digits? 4 rest
      if n < 0xDC00 ∧ 0xDC00 ≤ m ∧ m ≤ 0xDFFF then
        some (Char.ofNat (0x10000 + (n - 0xD800) * 0x400 + (m - 0xDC00)), rest)
      else none
    | _ => none

/-- What an escape stands for, given what follows the backslash. A line break behind one does not
count. -/
def escape? : List Char → Option (List Char × List Char)
  | [] => none
  | 'b' :: cs => some (['\x08'], cs)
  | 'f' :: cs => some (['\x0c'], cs)
  | 'n' :: cs => some (['\n'], cs)
  | 'r' :: cs => some (['\r'], cs)
  | 't' :: cs => some (['\t'], cs)
  | 'v' :: cs => some (['\x0b'], cs)
  | '0' :: cs => if cs.head?.any Char.isDigit then none else some (['\x00'], cs)
  | 'x' :: cs => (digits? 2 cs).map fun (n, cs) => ([Char.ofNat n], cs)
  | 'u' :: cs => (unit? cs).map fun (c, cs) => ([c], cs)
  | '\r' :: '\n' :: cs => some ([], cs)
  | c :: cs => if isBreak c then some ([], cs) else if c.isDigit then none else some ([c], cs)

/-- The text up to a quote. -/
def text? (quote : Char) : Nat → List Char → Option (List Char × List Char)
  | 0, _ | _, [] => none
  | fuel + 1, c :: cs =>
    if c = quote then some ([], cs)
    else if c = '\\' then do
      let (front, cs) ← escape? cs
      let (text, rest) ← text? quote fuel cs
      return (front ++ text, rest)
    else if c = '\n' ∨ c = '\r' then none
    else (text? quote fuel cs).map fun (text, rest) => (c :: text, rest)

def startsName (c : Char) : Bool := c == '$' || c == '_' || c.isAlpha || within letters c

def goesOnName (c : Char) : Bool := startsName c || isWordly c

/-- A name without quotes, the first character of which `fits` must pick. -/
def name? (fits : Char → Bool) : Nat → List Char → Option (List Char × List Char)
  | 0, _ => none
  | fuel + 1, cs => do
    let (c, rest) ← match cs with
      | '\\' :: 'u' :: cs => (digits? 4 cs).map fun (n, cs) => (Char.ofNat n, cs)
      | c :: cs => some (c, cs)
      | [] => none
    if fits c then
      match name? goesOnName fuel rest with
      | some (cs, rest) => some (c :: cs, rest)
      | none => some ([c], rest)
    else none

/-- The name of a member. -/
def key? (cs : List Char) : Option (String × List Char) :=
  match cs with
  | '"' :: cs => (text? '"' (cs.length + 1) cs).map fun (t, cs) => (String.ofList t, cs)
  | '\'' :: cs => (text? '\'' (cs.length + 1) cs).map fun (t, cs) => (String.ofList t, cs)
  | cs => (name? startsName (cs.length + 1) cs).map fun (t, cs) => (String.ofList t, cs)

/-! ### Numbers -/

/-- An integer, or a floating-point number where it needs more than 64 bits. -/
def integer (negative : Bool) (n : Nat) : Tree :=
  let i : Int := if negative then -n else n
  if Number.Word.holdsSigned 64 i then .int i
  else .float (Binary64.ofRatio negative n 1)

/-- Characters that numbers are made of. -/
def inNumber (c : Char) : Bool := c.isAlphanum || c == '.' || c == '+' || c == '-'

/-- A number without its sign. -/
def number? (negative : Bool) (word : List Char) : Option Tree :=
  match word with
  | '0' :: x :: ds =>
    if x = 'x' ∨ x = 'X' then
      if ds.isEmpty then none else (Hex.read? 0 ds).map (integer negative)
    else if x.isDigit then none
    else (Binary64.unsigned? negative word).map .float
  | _ =>
    if word = "Infinity".toList then some (.float (.infinite negative))
    else if word = "NaN".toList then some (.float .nan)
    else
      match Decimal.natural? word with
      | some n => some (integer negative n)
      | none => (Binary64.unsigned? negative word).map .float

/-! ### Values -/

mutual

/-- A value, and what follows it. -/
def value? : Nat → List Char → Option (Tree × List Char)
  | 0, _ => none
  | fuel + 1, cs => do
    match ← skipAll? cs with
    | '\x7b' :: cs => members? fuel [] cs
    | '[' :: cs => items? fuel [] cs
    | '"' :: cs => (text? '"' (cs.length + 1) cs).map fun (t, cs) => (.text (String.ofList t), cs)
    | '\'' :: cs => (text? '\'' (cs.length + 1) cs).map fun (t, cs) => (.text (String.ofList t), cs)
    | cs =>
      let (negative, digits) := Binary64.signed cs
      if digits.head?.any fun c => c.isDigit || c == '.' || c == 'I' || c == 'N' then
        let word := digits.takeWhile inNumber
        (number? negative word).map (·, digits.drop word.length)
      else
        let word := cs.takeWhile goesOnName
        let rest := cs.drop word.length
        match String.ofList word with
        | "null" => some (.null, rest)
        | "true" => some (.bool true, rest)
        | "false" => some (.bool false, rest)
        | _ => none

/-- Members up to the closing brace, after those that were read. -/
def members? : Nat → List (String × Tree) → List Char → Option (Tree × List Char)
  | 0, _, _ => none
  | fuel + 1, found, cs => do
    match ← skipAll? cs with
    | '\x7d' :: cs => some (.ofEntries found, cs)
    | cs =>
      let (key, cs) ← key? cs
      match ← skipAll? cs with
      | ':' :: cs =>
        let (value, cs) ← value? fuel cs
        let found := found ++ [(key, value)]
        match ← skipAll? cs with
        | ',' :: cs => members? fuel found cs
        | '\x7d' :: cs => some (.ofEntries found, cs)
        | _ => none
      | _ => none

/-- Items up to the closing bracket, after those that were read. -/
def items? : Nat → List Tree → List Char → Option (Tree × List Char)
  | 0, _, _ => none
  | fuel + 1, found, cs => do
    match ← skipAll? cs with
    | ']' :: cs => some (.list found, cs)
    | cs =>
      let (value, cs) ← value? fuel cs
      let found := found ++ [value]
      match ← skipAll? cs with
      | ',' :: cs => items? fuel found cs
      | ']' :: cs => some (.list found, cs)
      | _ => none

end

/-- Reads a document; it is a table. -/
def parse? (text : String) : Option (List (String × Tree)) := do
  let (value, rest) ← value? (2 * text.length + 2) text.toList
  match ← skipAll? rest with
  | [] => value.entries?
  | _ => none

end Timelines.Json5
