import Timelines.Json.Value

/-! JSON text of values: compact, and indented by two spaces a level.

In strings the quote, the backslash and the control characters are escaped; all else stands as it
is. -/
namespace Timelines.Json
open Text

/-- A character inside a string. -/
def escape (c : Char) : List Char :=
  if c = '"' then ['\\', '"']
  else if c = '\\' then ['\\', '\\']
  else if c = '\x08' then ['\\', 'b']
  else if c = '\x0c' then ['\\', 'f']
  else if c = '\n' then ['\\', 'n']
  else if c = '\r' then ['\\', 'r']
  else if c = '\t' then ['\\', 't']
  else if c.toNat < 0x20 then '\\' :: 'u' :: Hex.digits 4 c.toNat
  else [c]

/-- A string in quotes. -/
def quoteChars (cs : List Char) : List Char := '"' :: (cs.flatMap escape ++ ['"'])

def quote (s : String) : String := String.ofList (quoteChars s.toList)

namespace Number

def text : Number → String
  | integer negative size => (if negative then "-" else "") ++ toString size
  | real x => (if x.negative then "-" else "") ++ toString x.mantissa ++ "e" ++ toString x.exponent

end Number

namespace Value

mutual

/-- The text without any spaces. -/
def compact : Value → String
  | null => "null"
  | bool b => if b then "true" else "false"
  | number n => n.text
  | string s => quote s
  | array items => "[" ++ String.intercalate "," (compactItems items) ++ "]"
  | object members => "\x7b" ++ String.intercalate "," (compactMembers members) ++ "\x7d"

def compactItems : List Value → List String
  | [] => []
  | v :: rest => compact v :: compactItems rest

def compactMembers : List (String × Value) → List String
  | [] => []
  | (key, v) :: rest => (quote key ++ ":" ++ compact v) :: compactMembers rest

end

/-- A line break and the indent of a level. -/
def newline (level : Nat) : String := "\n" ++ String.ofList (List.replicate (2 * level) ' ')

/-- Parts one to a line, one level deeper, between brackets; an empty list has no line. -/
def block (level : Nat) (opening closing : String) (parts : List String) : String :=
  if parts.isEmpty then opening ++ closing
  else
    opening ++ newline (level + 1) ++ String.intercalate ("," ++ newline (level + 1)) parts ++
      newline level ++ closing

mutual

/-- The indented text. -/
def prettyAt (level : Nat) : Value → String
  | array items => block level "[" "]" (prettyItems (level + 1) items)
  | object members => block level "\x7b" "\x7d" (prettyMembers (level + 1) members)
  | null => "null"
  | bool b => if b then "true" else "false"
  | number n => n.text
  | string s => quote s

def prettyItems (level : Nat) : List Value → List String
  | [] => []
  | v :: rest => prettyAt level v :: prettyItems level rest

def prettyMembers (level : Nat) : List (String × Value) → List String
  | [] => []
  | (key, v) :: rest => (quote key ++ ": " ++ prettyAt level v) :: prettyMembers level rest

end

def pretty (v : Value) : String := prettyAt 0 v

end Value
end Timelines.Json
