import Timelines.Number.Binary64

/-! Values of the configuration language TOML, and how a document's tables are built up.

A table is open to more entries only in the way it came about. One that was named by a header may
not be named by a header again, one that came about through a dotted key takes further dotted keys,
and one that only stands on the way to another may still get a header. A table in braces is closed.
-/
namespace Timelines.Toml

inductive Value
  | string (s : String)
  | integer (n : Int)
  | float (x : Binary64)
  | bool (b : Bool)
  /-- A date, a time or both, in canonical text. -/
  | date (text : String)
  | array (items : List Value)
  | table (entries : List (String × Value))
  deriving Inhabited

/-- How a table came about. -/
inductive Form
  | header
  | dotted
  | onTheWay
  deriving DecidableEq, Inhabited

/-- A part of a document while it is built. -/
inductive Node
  | leaf (value : Value)
  | table (form : Form) (entries : List (String × Node))
  /-- Tables of one name, the last of which is open. -/
  | tables (tables : List (List (String × Node)))
  deriving Inhabited

namespace Node

abbrev Entries := List (String × Node)

def put (key : String) (n : Node) : Entries → Entries
  | [] => [(key, n)]
  | (k, m) :: rest => if k = key then (k, n) :: rest else (k, m) :: put key n rest

/-- Changes the table that a path of headers leads to. -/
def under (change : Entries → Option Entries) : List String → Entries → Option Entries
  | [], es => change es
  | key :: path, es =>
    match es.lookup key with
    | none => (under change path []).map fun inner => put key (table .onTheWay inner) es
    | some (table form inner) =>
      (under change path inner).map fun inner => put key (table form inner) es
    | some (tables ts) => do
      let last ← ts.getLast?
      let inner ← under change path last
      return put key (tables (ts.dropLast ++ [inner])) es
    | some (leaf _) => none

/-- Names a table by a header. -/
def openTable (key : String) (es : Entries) : Option Entries :=
  match es.lookup key with
  | none => some (put key (table .header []) es)
  | some (table .onTheWay inner) => some (put key (table .header inner) es)
  | _ => none

/-- Adds a table to those of a name. -/
def addTable (key : String) (es : Entries) : Option Entries :=
  match es.lookup key with
  | none => some (put key (tables [[]]) es)
  | some (tables ts) => some (put key (tables (ts ++ [[]])) es)
  | _ => none

/-- Sets a dotted key to a value. -/
def assign (value : Value) : List String → Entries → Option Entries
  | [], _ => none
  | [key], es => if (es.lookup key).isSome then none else some (put key (leaf value) es)
  | key :: path, es =>
    match es.lookup key with
    | none => (assign value path []).map fun inner => put key (table .dotted inner) es
    | some (table .header _) => none
    | some (table form inner) =>
      (assign value path inner).map fun inner => put key (table form inner) es
    | _ => none

mutual

/-- The finished value. -/
def value : Node → Value
  | leaf v => v
  | table _ es => .table (values es)
  | tables ts => .array (tableValues ts)

def values : Entries → List (String × Value)
  | [] => []
  | (k, n) :: rest => (k, value n) :: values rest

def tableValues : List Entries → List Value
  | [] => []
  | es :: rest => .table (values es) :: tableValues rest

end

end Node
end Timelines.Toml
