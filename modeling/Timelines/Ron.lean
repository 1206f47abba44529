import Timelines.Number.Notation
import Timelines.Number.Word
import Timelines.Text.Hex
import Timelines.Text.Letters
import Timelines.Text.Search
import Timelines.Tree

/-! Documents of RON: structures with named fields in round brackets, which may follow a name,
tables in curly brackets, lists, options, texts, characters and numbers. -/
namespace Timelines.Ron
open Text Number.Word

/-! ### Blanks and comments -/

/-- Characters of no meaning between words. -/
def isSpace (c : Char) : Bool :=
  c.isWhitespace || "\x0b\x0c\u0085\u200e\u200f\u2028\u2029".toList.contains c

/-- The text behind a comment within which others may stand, of which some are open. -/
def closeComment? : Nat → List Char → Option (List Char)
  | _, [] => none
  | depth, '/' :: '*' :: cs => closeComment? (depth + 1) cs
  | depth, '*' :: '/' :: cs => if depth ≤ 1 then some cs else closeComment? (depth - 1) cs
  | depth, _ :: cs => closeComment? depth cs

/-- Blanks and comments are left out. -/
def skip? : Nat → List Char → Option (List Char)
  | 0, _ => none
  | fuel + 1, cs =>
    match cs.dropWhile isSpace with
    | '/' :: '/' :: cs => skip? fuel (cs.dropWhile (· != '\n'))
    | '/' :: '*' :: cs => (closeComment? 1 cs).bind (skip? fuel)
    | cs => some cs

def skipAll? (cs : List Char) : Option (List Char) := skip? (cs.length + 1) cs

/-! ### Names and texts -/

def startsName (c : Char) : Bool := c == '_' || c.isAlpha || within letters c

/-- A name at the front; it may follow `r#`. -/
def name? (cs : List Char) : Option (String × List Char) :=
  let cs := match cs with
    | 'r' :: '#' :: c :: rest => if startsName c then c :: rest else cs
    | cs => cs
  if cs.head?.any startsName then
    some (String.ofList (cs.takeWhile isWordly), cs.dropWhile isWordly)
  else none

/-- The character that an escape stands for, given what follows the backslash. -/
def escape? : List Char → Option (Char × List Char)
  | '\'' :: cs => some ('\'', cs)
  | '"' :: cs => some ('"', cs)
  | '\\' :: cs => some ('\\', cs)
  | 'n' :: cs => some ('\n', cs)
  | 'r' :: cs => some ('\r', cs)
  | 't' :: cs => some ('\t', cs)
  | '0' :: cs => some ('\x00', cs)
  | 'x' :: a :: b :: cs => (Hex.read? 0 [a, b]).map fun n => (Char.ofNat n, cs)
  | 'u' :: '\x7b' :: cs => do
    let digits := cs.takeWhile (· != '\x7d')
    let n ← if digits.isEmpty ∨ digits.length > 6 then none else Hex.read? 0 digits
    if (0xD800 ≤ n ∧ n ≤ 0xDFFF) ∨ 0x110000 ≤ n ∨ digits.length = cs.length then none
    else some (Char.ofNat n, cs.drop (digits.length + 1))
  | _ => none

/-- The text up to a double quote. -/
def text? : Nat → List Char → Option (List Char × List Char)
  | 0, _ | _, [] => none
  | _, '"' :: cs => some ([], cs)
  | fuel + 1, '\\' :: cs => do
    let (c, cs) ← escape? cs
    let (text, rest) ← text? fuel cs
    return (c :: text, rest)
  | fuel + 1, c :: cs => (text? fuel cs).map fun (text, rest) => (c :: text, rest)

/-- The text up to a double quote with so many number signs behind it. -/
def rawText? (signs : Nat) : List Char → Option (List Char × List Char)
  | [] => none
  | c :: cs =>
    if c = '"' ∧ cs.take signs = List.replicate signs '#' then some ([], cs.drop signs)
    else (rawText? signs cs).map fun (text, rest) => (c :: text, rest)

/-- A text in quotes, or one without escapes behind an `r` and any number of signs. -/
def quoted? : List Char → Option (Tree × List Char)
  | '"' :: cs | 'b' :: '"' :: cs =>
    (text? (cs.length + 1) cs).map fun (t, cs) => (.text (String.ofList t), cs)
  | 'r' :: cs =>
    let signs := (cs.takeWhile (· == '#')).length
    match cs.drop signs with
    | '"' :: cs => (rawText? signs cs).map fun (t, cs) => (.text (String.ofList t), cs)
    | _ => none
  | '\'' :: cs => do
    let (c, cs) ← match cs with
      | '\\' :: cs => escape? cs
      | '\'' :: _ | [] => none
      | c :: cs => some (c, cs)
    match cs with
    | '\'' :: cs => some (.text c.toString, cs)
    | _ => none
  | _ => none

/-! ### Numbers -/

/-- Digits of a base, between which low lines may stand. -/
def digits? (base : Nat) (cs : List Char) : Option Nat :=
  if cs.isEmpty ∨ cs.head? = some '_' then none
  else
    Digits.read? base (fun c => (Hex.value? c).bind fun d => if d < base then some d else none) 0
      (cs.filter (· != '_'))

/-- The integers that there are of the kind that stands behind a number's digits. Without a kind
they are those that 64 bits hold one way or the other. -/
def kind? : String → Option (Int → Bool)
  | "" => some (holdsEither 64)
  | "i8" => some (holdsSigned 8)
  | "i16" => some (holdsSigned 16)
  | "i32" => some (holdsSigned 32)
  | "i64" => some (holdsSigned 64)
  | "u8" => some (holds 8)
  | "u16" => some (holds 16)
  | "u32" => some (holds 32)
  | "u64" => some (holds 64)
  | _ => none

/-- An integer without its sign. -/
def integer? (negative : Bool) (cs : List Char) : Option Tree := do
  let (digits, kind) := cut (fun c => c == 'i' || c == 'u') cs
  let n ← match digits with
    | '0' :: 'x' :: ds => digits? 16 ds
    | '0' :: 'o' :: ds => digits? 8 ds
    | '0' :: 'b' :: ds => digits? 2 ds
    | ds => digits? 10 ds
  let holds ← kind? (String.ofList kind)
  let i : Int := if negative then -n else n
  if holds i then some (.int i) else none

/-- A number, and what follows it. -/
def number? (cs : List Char) : Option (Tree × List Char) := do
  let (negative, digits) := Binary64.signed cs
  let inFloat (c : Char) : Bool := c.isDigit || "eE.+-_".toList.contains c
  let whole := digits.takeWhile fun c => c.isAlphanum || c == '_'
  let whole := if ["inf", "NaN"].contains (String.ofList whole) then [] else whole
  let float := digits.takeWhile inFloat
  match integer? negative whole with
  | some value =>
    if float.length ≤ whole.length then some (value, digits.drop whole.length)
    else fraction negative digits float
  | none => fraction negative digits float
where
  fraction (negative : Bool) (digits float : List Char) : Option (Tree × List Char) :=
    match digits with
    | 'i' :: 'n' :: 'f' :: rest => some (.float (.infinite negative), rest)
    | 'N' :: 'a' :: 'N' :: rest => some (.float .nan, rest)
    | _ =>
      if float.head? = some '_' ∨ mentionsChars "._".toList float then none
      else
        (Binary64.unsigned? negative (float.filter (· != '_'))).map fun x =>
          (.float x, digits.drop float.length)

/-! ### Values -/

/-- Whether a name and a colon stand behind an opening bracket. -/
def named (cs : List Char) : Bool :=
  match (skipAll? cs).bind name? with
  | some (_, rest) => ((skipAll? rest).bind List.head?) == some ':'
  | none => false

mutual

/-- A value, and what follows it. -/
def value? : Nat → List Char → Option (Tree × List Char)
  | 0, _ => none
  | fuel + 1, cs => do
    let cs ← skipAll? cs
    match quoted? cs with
    | some result => some result
    | none =>
      match name? cs with
      | some (name, rest) =>
        if name = "true" then some (.bool true, rest)
        else if name = "false" then some (.bool false, rest)
        else if name = "None" then some (.null, rest)
        else if name = "inf" ∨ name = "NaN" then number? cs
        else
          match ← skipAll? rest with
          | '(' :: inner =>
            if name = "Some" then do
              let (value, rest) ← value? fuel inner
              match ← skipAll? rest with
              | ')' :: rest => some (value, rest)
              | ',' :: rest =>
                match ← skipAll? rest with
                | ')' :: rest => some (value, rest)
                | _ => none
              | _ => none
            else body? fuel inner
          | _ => if name = "Some" then none else some (.null, rest)
      | none =>
        match cs with
        | '(' :: inner => body? fuel inner
        | '\x7b' :: inner => entries? fuel '\x7d' [] inner
        | '[' :: inner => items? fuel ']' [] inner
        | cs => number? cs

/-- What stands in round brackets: fields, values in a row, or nothing. -/
def body? : Nat → List Char → Option (Tree × List Char)
  | 0, _ => none
  | fuel + 1, cs => do
    match ← skipAll? cs with
    | ')' :: rest => some (.null, rest)
    | cs => if named cs then entries? fuel ')' [] cs else items? fuel ')' [] cs

/-- Entries up to a closing bracket, after those that were read. In round brackets keys are names,
and otherwise texts. -/
def entries? : Nat → Char → List (String × Tree) → List Char → Option (Tree × List Char)
  | 0, _, _, _ => none
  | fuel + 1, close, found, cs => do
    let cs ← skipAll? cs
    if cs.head? = some close then some (.ofEntries found, cs.drop 1)
    else
      let (key, rest) ← if close = ')' then name? cs else
        match ← value? fuel cs with
        | (.text key, rest) => some (key, rest)
        | _ => none
      match ← skipAll? rest with
      | ':' :: rest =>
        let (value, rest) ← value? fuel rest
        let found := found ++ [(key, value)]
        match ← skipAll? rest with
        | ',' :: rest => entries? fuel close found rest
        | c :: rest => if c = close then some (.ofEntries found, rest) else none
        | [] => none
      | _ => none

/-- Values up to a closing bracket, after those that were read. -/
def items? : Nat → Char → List Tree → List Char → Option (Tree × List Char)
  | 0, _, _, _ => none
  | fuel + 1, close, found, cs => do
    let cs ← skipAll? cs
    if cs.head? = some close then some (.list found, cs.drop 1)
    else
      let (value, rest) ← value? fuel cs
      let found := found ++ [value]
      match ← skipAll? rest with
      | ',' :: rest => items? fuel close found rest
      | c :: rest => if c = close then some (.list found, rest) else none
      | [] => none

end

/-! ### Documents -/

/-- Ways of writing that a document may ask for. None of them changes what is read here. -/
def extensions : List String :=
  ["unwrap_newtypes", "implicit_some", "unwrap_variant_newtypes", "explicit_struct_names"]

/-- What follows the lines at the beginning that ask for extensions. -/
def skipAsking? : Nat → List Char → Option (List Char)
  | 0, _ => none
  | fuel + 1, cs => do
    match ← skipAll? cs with
    | '#' :: rest =>
      let asked := rest.takeWhile (· != ']')
      match String.ofList (asked.filter (!isSpace ·)) with
      | s =>
        let inner := (s.toList.drop "![enable(".length).dropLast
        let words := ((splitAll (· == ',') inner).map String.ofList).filter (!·.isEmpty)
        if s.startsWith "![enable(" ∧ s.endsWith ")" ∧ words.all extensions.contains then
          skipAsking? fuel (rest.drop (asked.length + 1))
        else none
    | cs => some cs

/-- Reads a document; it is a table. -/
def parse? (text : String) : Option (List (String × Tree)) := do
  let cs ← skipAsking? (text.length + 1) text.toList
  let (value, rest) ← value? (3 * cs.length + 3) cs
  match ← skipAll? rest with
  | [] => value.entries?
  | _ => none

end Timelines.Ron
