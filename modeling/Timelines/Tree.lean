import Timelines.Number.Binary64

/-! Trees of plain values, which documents of several written forms are read as. -/
namespace Timelines

inductive Tree
  | null
  | bool (value : Bool)
  | int (value : Int)
  | float (value : Binary64)
  | text (value : String)
  | list (items : List Tree)
  | table (entries : List (String × Tree))
  deriving Inhabited

namespace Tree

/-- Sets the entry of a key. -/
def put (key : String) (value : Tree) : List (String × Tree) → List (String × Tree)
  | [] => [(key, value)]
  | (k, v) :: rest => if k = key then (k, value) :: rest else (k, v) :: put key value rest

/-- A table of entries in order, of which those with one key take each other's place. -/
def ofEntries (entries : List (String × Tree)) : Tree :=
  table (entries.foldl (fun es (k, v) => put k v es) [])

/-- The entries of a table, the only value that is a document. -/
def entries? : Tree → Option (List (String × Tree))
  | table es => some es
  | _ => none

end Tree
end Timelines
