import Timelines.Json.Parser

/-! JSON values: documents without a fault, as data.

Of members of one name the last counts, in the place of the first. Values nest less than 128 deep.
-/
namespace Timelines.Json

inductive Value
  | null
  | bool (value : Bool)
  | number (value : Number)
  | string (value : String)
  | array (items : List Value)
  | object (members : List (String × Value))
  deriving Inhabited

namespace Value

def nat (n : Nat) : Value := number (.integer false n)

def int (n : Int) : Value := number (.integer (n < 0) n.natAbs)

/-- A text, or null. -/
def optional (s : Option String) : Value :=
  match s with
  | some s => string s
  | none => null

def optionalNat (n : Option Nat) : Value :=
  match n with
  | some n => nat n
  | none => null

def optionalBool (b : Option Bool) : Value :=
  match b with
  | some b => bool b
  | none => null

/-- The member of a name; null where there is none, as for a value that is no object. -/
def get (v : Value) (key : String) : Value :=
  match v with
  | object members => (members.lookup key).getD null
  | _ => null

/-- The text that a value is. -/
def text? : Value → Option String
  | string s => some s
  | _ => none

/-- The integer that a value is, written without a point or a power. -/
def int? : Value → Option Int
  | number (.integer negative size) => some (if negative then -size else size)
  | _ => none

/-- Members with one more, which takes the place of an earlier one of its name. -/
def insert (members : List (String × Value)) (key : String) (v : Value) : List (String × Value) :=
  if members.any (·.1 == key) then members.map fun m => if m.1 == key then (key, v) else m
  else members ++ [(key, v)]

/-- The value with another one in the place of a member of a member and so on, if that is there. -/
def replace (v : Value) (path : List String) (new : Value) : Value :=
  match path, v with
  | [], _ => new
  | key :: path, object members =>
    object (members.map fun m => if m.1 == key then (m.1, m.2.replace path new) else m)
  | _ :: _, v => v
termination_by structural path

end Value

/-- How deep values nest. -/
def depthLimit : Nat := 127

namespace Doc

mutual

/-- The value of a document without faults that nests at most `depth` deep. -/
def value? (depth : Nat) : Doc → Option Value
  | null => some .null
  | bool b => some (.bool b)
  | number n => if n.unbounded then none else some (.number n)
  | string (.ok s) => some (.string s)
  | string (.error _) => none
  | array items none => if depth = 0 then none else (values? (depth - 1) items).map .array
  | object members none =>
    if depth = 0 then none else (pairs? (depth - 1) members).map fun ps =>
      .object (ps.foldl (fun acc (k, v) => Value.insert acc k v) [])
  | _ => none

def values? (depth : Nat) : List Doc → Option (List Value)
  | [] => some []
  | d :: rest => do return (← value? depth d) :: (← values? depth rest)

def pairs? (depth : Nat) : List (Except Fault String × Doc) → Option (List (String × Value))
  | [] => some []
  | (.ok key, d) :: rest => do return (key, ← value? depth d) :: (← pairs? depth rest)
  | (.error _, _) :: _ => none

end

end Doc

namespace Value

mutual

/-- A value as a document. -/
def toDoc : Value → Doc
  | null => .null
  | bool b => .bool b
  | number n => .number n
  | string s => .string (.ok s)
  | array items => .array (toDocs items) none
  | object members => .object (toPairs members) none

def toDocs : List Value → List Doc
  | [] => []
  | v :: rest => toDoc v :: toDocs rest

def toPairs : List (String × Value) → List (Except Fault String × Doc)
  | [] => []
  | (key, v) :: rest => (.ok key, toDoc v) :: toPairs rest

end

end Value

/-- The value a text holds. -/
def Value.parse? (text : String) : Option Value :=
  let (doc, rest) := Doc.parse text
  if (skipSpace rest).isEmpty then doc.value? depthLimit else none

end Timelines.Json
