import Timelines.Json.Lexeme

/-! From text to document. -/
namespace Timelines.Json

/-- A document and the text behind it. A broken document has nothing behind it. -/
abbrev Parsed := Doc × List Char

def Parsed.of (make : α → Doc) : Except Break (α × List Char) → Parsed
  | .ok (a, cs) => (make a, cs)
  | .error b => (.broken b, [])

/-- A word that stands for a value. -/
def readNamed (d : Doc) (word : String) (cs : List Char) : Parsed :=
  Parsed.of (fun _ : Unit => d) ((readWord word.toList cs).map ((), ·))

/-- Whether a document broke off, so that nothing can follow it. -/
def Doc.breaks : Doc → Option Break
  | .broken b => some b
  | .array _ ending => ending
  | .object _ ending => ending
  | _ => none

mutual

/-- The value at the front of a text, spaces before it skipped. The fuel is more than twice the
length of the text: a bracket takes two steps. -/
def readValue : Nat → List Char → Parsed
  | 0, _ => (.broken .truncated, [])
  | fuel + 1, cs =>
    match skipSpace cs with
    | [] => (.broken .truncated, [])
    | c :: cs =>
      match c with
      | 'n' => readNamed .null "ull" cs
      | 't' => readNamed (.bool true) "rue" cs
      | 'f' => readNamed (.bool false) "alse" cs
      | '"' => Parsed.of .string (readQuoted fuel cs)
      | '-' => Parsed.of .number (readNumber true cs)
      | '[' =>
        match skipSpace cs with
        | [] => (.array [] (some .truncated), [])
        | ']' :: cs => (.array [] none, cs)
        | cs =>
          let (items, ending, rest) := readRest fuel cs
          (.array items ending, rest)
      | '\x7b' =>
        match skipSpace cs with
        | '\x7d' :: cs => (.object [] none, cs)
        | cs =>
          let (members, ending, rest) := readMembers fuel cs
          (.object members ending, rest)
      | c =>
        if Text.Decimal.isDigit c then Parsed.of .number (readNumber false (c :: cs))
        else (.broken .malformed, [])

/-- Items up to the closing bracket, from one that has to be there. -/
def readRest : Nat → List Char → List Doc × Option Break × List Char
  | 0, _ => ([], some .truncated, [])
  | fuel + 1, cs =>
    let (item, rest) := readValue fuel cs
    match item.breaks with
    | some b => ([item], some b, [])
    | none =>
      match skipSpace rest with
      | [] => ([item], some .truncated, [])
      | ']' :: rest => ([item], none, rest)
      | ',' :: rest =>
        let (items, ending, rest) := readRest fuel rest
        (item :: items, ending, rest)
      | _ => ([item], some .malformed, [])

/-- Members up to the closing brace, from one that has to be there. -/
def readMembers : Nat → List Char → List (Except Fault String × Doc) × Option Break × List Char
  | 0, _ => ([], some .truncated, [])
  | fuel + 1, cs =>
    match skipSpace cs with
    | [] => ([], some .truncated, [])
    | '"' :: cs =>
      match readQuoted fuel cs with
      | .error b => ([], some b, [])
      | .ok (key, rest) =>
        match skipSpace rest with
        | [] => ([(key, .broken .truncated)], some .truncated, [])
        | ':' :: rest =>
          let (value, rest) := readValue fuel rest
          match value.breaks with
          | some b => ([(key, value)], some b, [])
          | none =>
            match skipSpace rest with
            | [] => ([(key, value)], some .truncated, [])
            | '\x7d' :: rest => ([(key, value)], none, rest)
            | ',' :: rest =>
              let (members, ending, rest) := readMembers fuel rest
              ((key, value) :: members, ending, rest)
            | _ => ([(key, value)], some .malformed, [])
        | _ => ([(key, .broken .malformed)], some .malformed, [])
    | _ => ([], some .malformed, [])

end

/-- The document of a text, and what follows it. -/
def Doc.parse (text : String) : Parsed :=
  let cs := text.toList
  readValue (2 * cs.length + 1) cs

/-- Reads a text that holds one value and nothing else. The value's own faults come first. -/
def decode (read : Doc → Except Fault α) (text : String) : Except Fault α := do
  let (doc, rest) := Doc.parse text
  let value ← read doc
  if (skipSpace rest).isEmpty then return value else .error .malformed

end Timelines.Json
