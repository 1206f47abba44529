import Timelines.Json.Printer

/-! JSON values in TOML: an object is a line for each member, and objects inside are inline tables.
-/
namespace Timelines.Toml
open Json Text

/-- A character inside a string. -/
def escape (c : Char) : List Char :=
  if c = '"' then ['\\', '"']
  else if c = '\\' then ['\\', '\\']
  else if c.toNat < 0x20 ∨ c.toNat = 0x7F then '\\' :: 'u' :: Hex.digits 4 c.toNat
  else [c]

def quote (s : String) : String := String.ofList ('"' :: (s.toList.flatMap escape ++ ['"']))

mutual

def ofJson : Value → String
  | .null => "null"
  | .bool b => if b then "true" else "false"
  | .number n => n.text
  | .string s => quote s
  | .array items => "[" ++ String.intercalate ", " (ofItems items) ++ "]"
  | .object members => "\x7b" ++ String.intercalate ", " (ofMembers members) ++ "\x7d"

def ofItems : List Value → List String
  | [] => []
  | v :: rest => ofJson v :: ofItems rest

def ofMembers : List (String × Value) → List String
  | [] => []
  | (key, v) :: rest => (quote key ++ " = " ++ ofJson v) :: ofMembers rest

end

/-- The members of an object as a file. -/
def document (members : List (String × Value)) : String :=
  String.join ((ofMembers members).map (· ++ "\n"))

end Timelines.Toml
