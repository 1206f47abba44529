import Timelines.Toml.Scalar

/-! Reading documents of TOML. -/
namespace Timelines.Toml
open Text

/-! ### Blanks and comments -/

def isBlank (c : Char) : Bool := c == ' ' || c == '\t'

def skipBlank (cs : List Char) : List Char := cs.dropWhile isBlank

/-- Characters that may stand in a comment, and in a text within one line. -/
def visible (c : Char) : Bool := c == '\t' || (0x20 ≤ c.toNat && c.toNat ≠ 0x7F)

/-- The text behind a comment, if one begins here. -/
def skipComment : List Char → List Char
  | '#' :: cs => cs.dropWhile visible
  | cs => cs

/-- A line break, with or without a carriage return. -/
def newline? : List Char → Option (List Char)
  | '\n' :: cs => some cs
  | '\r' :: '\n' :: cs => some cs
  | _ => none

/-- Blanks, comments and line breaks, as many as there are. -/
def skipLines : Nat → List Char → List Char
  | 0, cs => cs
  | fuel + 1, cs =>
    let cs := skipComment (skipBlank cs)
    match newline? cs with
    | some rest => skipLines fuel rest
    | none => cs

/-- The end of a line: nothing but blanks and a comment, and then a line break or the end. -/
def endLine? (cs : List Char) : Option (List Char) :=
  match skipComment (skipBlank cs) with
  | [] => some []
  | cs => newline? cs

/-! ### Texts -/

/-- The character that an escape stands for, given what follows the backslash. -/
def escape? : List Char → Option (Char × List Char)
  | 'b' :: cs => some ('\x08', cs)
  | 't' :: cs => some ('\t', cs)
  | 'n' :: cs => some ('\n', cs)
  | 'f' :: cs => some ('\x0c', cs)
  | 'r' :: cs => some ('\r', cs)
  | 'e' :: cs => some ('\x1b', cs)
  | '"' :: cs => some ('"', cs)
  | '\\' :: cs => some ('\\', cs)
  | 'x' :: cs => code 2 cs
  | 'u' :: cs => code 4 cs
  | 'U' :: cs => code 8 cs
  | _ => none
where
  code (width : Nat) (cs : List Char) : Option (Char × List Char) := do
    if cs.length < width then none
    else
      let n ← Hex.read? 0 (cs.take width)
      if n < 0xD800 ∨ (0xDFFF < n ∧ n < 0x110000) then some (Char.ofNat n, cs.drop width)
      else none

/-- A text up to its closing quote; in double quotes a backslash begins an escape. -/
def line? (quote : Char) : Nat → List Char → Option (List Char × List Char)
  | 0, _ | _, [] => none
  | fuel + 1, c :: cs =>
    if c = quote then some ([], cs)
    else if c = '\\' ∧ quote = '"' then do
      let (c, cs) ← escape? cs
      let (text, rest) ← line? quote fuel cs
      return (c :: text, rest)
    else if visible c then do
      let (text, rest) ← line? quote fuel cs
      return (c :: text, rest)
    else none

/-- A text over several lines up to its three closing quotes, before which two more may stand. Line
breaks stand for themselves; a backslash at the end of a line takes the blanks and line breaks
behind it away. -/
def lines? (quote : Char) : Nat → List Char → Option (List Char × List Char)
  | 0, _ | _, [] => none
  | fuel + 1, c :: cs =>
    if c = quote then
      let run := cs.takeWhile (· == quote)
      if run.length < 2 then do
        let (text, rest) ← lines? quote fuel cs
        return (c :: text, rest)
      else if run.length ≤ 4 then some (run.drop 2, cs.drop run.length)
      else some ([quote, quote], cs.drop 4)
    else if c = '\\' ∧ quote = '"' then
      match newline? (skipBlank cs) with
      | some rest =>
        lines? quote fuel (rest.dropWhile fun c => isBlank c || c == '\n' || c == '\r')
      | none => do
        let (c, cs) ← escape? cs
        let (text, rest) ← lines? quote fuel cs
        return (c :: text, rest)
    else
      let isBreak := (newline? (c :: cs)).isSome
      if isBreak ∨ visible c then do
        let (text, rest) ← lines? quote fuel cs
        return (c :: text, rest)
      else none

/-- A text after its first quote. -/
def text? (quote : Char) (cs : List Char) : Option (String × List Char) :=
  let r :=
    match cs with
    | a :: b :: rest =>
      if a = quote ∧ b = quote then
        lines? quote (rest.length + 1) ((newline? rest).getD rest)
      else line? quote (cs.length + 1) cs
    | cs => line? quote (cs.length + 1) cs
  r.map fun (text, rest) => (String.ofList text, rest)

/-! ### Keys -/

def bareKeyChar (c : Char) : Bool := c.isAlphanum || c == '_' || c == '-'

/-- One part of a key. -/
def keyPart? (cs : List Char) : Option (String × List Char) :=
  match cs with
  | '"' :: rest => (line? '"' (rest.length + 1) rest).map fun (t, r) => (String.ofList t, r)
  | '\'' :: rest => (line? '\'' (rest.length + 1) rest).map fun (t, r) => (String.ofList t, r)
  | cs =>
    let name := cs.takeWhile bareKeyChar
    if name.isEmpty then none else some (String.ofList name, cs.dropWhile bareKeyChar)

/-- How many brackets and braces may be open at one place, and how many parts a key may have. -/
def nestingLimit : Nat := 80

/-- Parts between points, at least one and at most as many as given. -/
def keyParts? : Nat → List Char → Option (List String × List Char)
  | 0, _ => none
  | room + 1, cs => do
    let (part, rest) ← keyPart? (skipBlank cs)
    match skipBlank rest with
    | '.' :: rest =>
      let (parts, rest) ← keyParts? room rest
      return (part :: parts, rest)
    | rest => return ([part], rest)

/-- A key of one or more parts between points. -/
def key? (cs : List Char) : Option (List String × List Char) := keyParts? nestingLimit cs

/-! ### Values -/

def bareChar (c : Char) : Bool :=
  c.isAlphanum || c == '+' || c == '-' || c == '_' || c == '.' || c == ':'

/-- A value without quotes; a date may be followed by a blank and a time. -/
def bareValue? (cs : List Char) : Option (Value × List Char) :=
  let word := cs.takeWhile bareChar
  let rest := cs.dropWhile bareChar
  match rest with
  | ' ' :: c :: _ =>
    if (day? word).any (·.2.isEmpty) ∧ Decimal.isDigit c then
      let more := (rest.drop 1).takeWhile bareChar
      (bare? (word ++ ' ' :: more)).map (·, (rest.drop 1).dropWhile bareChar)
    else (bare? word).map (·, rest)
  | _ => (bare? word).map (·, rest)

mutual

/-- A value, with `room` for so many brackets and braces inside one another. -/
def value? : Nat → Nat → List Char → Option (Value × List Char)
  | 0, _, _ => none
  | fuel + 1, room, cs =>
    match cs with
    | '"' :: cs => (text? '"' cs).map fun (t, rest) => (.string t, rest)
    | '\'' :: cs => (text? '\'' cs).map fun (t, rest) => (.string t, rest)
    | '[' :: cs =>
      if room = 0 then none
      else (items? fuel (room - 1) cs).map fun (vs, rest) => (.array vs, rest)
    | '\x7b' :: cs =>
      if room = 0 then none
      else
        (inline? fuel (room - 1) cs []).map fun (es, rest) => (.table (Node.values es), rest)
    | cs => bareValue? cs

/-- Items up to the closing bracket. -/
def items? : Nat → Nat → List Char → Option (List Value × List Char)
  | 0, _, _ => none
  | fuel + 1, room, cs =>
    match skipLines cs.length cs with
    | ']' :: rest => some ([], rest)
    | cs => do
      let (v, rest) ← value? fuel room cs
      match skipLines rest.length rest with
      | ',' :: rest =>
        let (vs, rest) ← items? fuel room rest
        return (v :: vs, rest)
      | ']' :: rest => return ([v], rest)
      | _ => none

/-- Entries up to the closing brace. -/
def inline? : Nat → Nat → List Char → Node.Entries → Option (Node.Entries × List Char)
  | 0, _, _, _ => none
  | fuel + 1, room, cs, es =>
    match skipLines cs.length cs with
    | '\x7d' :: rest => some (es, rest)
    | cs => do
      let (key, rest) ← key? cs
      match rest with
      | '=' :: rest =>
        let (v, rest) ← value? fuel room (skipBlank rest)
        let es ← Node.assign v key es
        match skipLines rest.length rest with
        | ',' :: rest => inline? fuel room rest es
        | '\x7d' :: rest => return (es, rest)
        | _ => none
      | _ => none

end

/-! ### Documents -/

/-- The header of a table, after its first bracket: whether it names one of several, and its key. -/
def header? (cs : List Char) : Option (Bool × List String × List Char) :=
  let several := cs.head? = some '['
  let cs := if several then cs.drop 1 else cs
  match key? cs with
  | some (key, ']' :: rest) =>
    if several then
      match rest with
      | ']' :: rest => some (true, key, rest)
      | _ => none
    else some (false, key, rest)
  | _ => none

/-- Reads line by line; `at` is the path of the table that takes the entries. -/
def document? : Nat → List String → Node.Entries → List Char → Option Node.Entries
  | 0, _, _, _ => none
  | fuel + 1, here, es, cs =>
    match skipLines cs.length cs with
    | [] => some es
    | '[' :: cs => do
      let (several, key, rest) ← header? cs
      let name ← key.getLast?
      let change := if several then Node.addTable name else Node.openTable name
      let es ← Node.under change key.dropLast es
      document? fuel key es (← endLine? rest)
    | cs => do
      let (key, rest) ← key? cs
      match rest with
      | '=' :: rest =>
        let (v, rest) ← value? (rest.length + 1) nestingLimit (skipBlank rest)
        let es ← Node.under (Node.assign v key) here es
        document? fuel here es (← endLine? rest)
      | _ => none

/-- The entries of a document. -/
def parse? (text : String) : Option (List (String × Value)) :=
  let cs := text.toList
  (document? (cs.length + 1) [] [] cs).map Node.values

end Timelines.Toml
