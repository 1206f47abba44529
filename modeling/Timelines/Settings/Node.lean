import Timelines.Json.Value
import Timelines.Number.Shortest
import Timelines.Number.Word

/-! Values of settings before they are read: trees that remember where each value was given.

Layers are laid over one another key by key: a table goes into the table below, and anything else
takes the place of what is below. Tables that come about in this way belong to no place. -/
namespace Timelines.Settings

inductive Scalar
  | bool (value : Bool)
  | int (value : Int)
  | float (value : Binary64)
  | text (value : String)
  deriving DecidableEq, Inhabited

inductive Node
  | null
  | scalar (origin : Option String) (value : Scalar)
  | list (origin : Option String) (items : List Node)
  | table (entries : List (String × Node))
  deriving Inhabited

namespace Node

/-- Sets the entry of a key. -/
def put (key : String) (value : Node) : List (String × Node) → List (String × Node)
  | [] => [(key, value)]
  | (k, v) :: rest => if k = key then (k, value) :: rest else (k, v) :: put key value rest

/-- The entries of a table; other values have none. -/
def entries : Node → List (String × Node)
  | table es => es
  | _ => []

def items : Node → List Node
  | list _ is => is
  | _ => []

mutual

/-- A value laid over another. -/
def lay : Node → Node → Node
  | table es, below => table (layAll es below.entries)
  | value, _ => value

/-- Entries laid over others. -/
def layAll : List (String × Node) → List (String × Node) → List (String × Node)
  | [], below => below
  | (k, v) :: rest, below => layAll rest (put k (lay v ((below.lookup k).getD null)) below)

end

/-! ### Keys that are paths -/

/-- A step down: to an entry, or to an item, counted from the end where the number is negative. -/
inductive Step
  | key (name : String)
  | index (n : Int)
  deriving DecidableEq, Inhabited

/-- Items with the one that an index names, and its place. Items that are missing are put behind the
others, or before them for a negative index. -/
def reach (n : Int) (items : List Node) : List Node × Nat :=
  if n ≥ 0 then (items ++ List.replicate (n.toNat + 1 - items.length) null, n.toNat)
  else (List.replicate (n.natAbs - items.length) null ++ items, items.length - n.natAbs)

/-- Lays a value over what a path leads to. -/
def layAt : List Step → Node → Node → Node
  | [], value, below => lay value below
  | .key k :: path, value, below =>
    table (put k (layAt path value ((below.entries.lookup k).getD null)) below.entries)
  | .index n :: path, value, below =>
    let (items, i) := reach n below.items
    list none (items.set i (layAt path value (items[i]?.getD null)))

def nameChar (c : Char) : Bool := c.isAlphanum || c == '_' || c == '-'

/-- Blanks inside brackets. -/
def skipSpace (cs : List Char) : List Char := cs.dropWhile fun c => c == ' ' || c == '\t'

/-- An index of 64 bits between blanks, and what follows it. -/
def index? (cs : List Char) : Option (Int × List Char) := do
  let cs := skipSpace cs
  let negative := cs.head? = some '-'
  let cs := if negative then cs.drop 1 else cs
  let n ← Text.Decimal.natural? (cs.takeWhile Text.Decimal.isDigit)
  let i : Int := if negative then -n else n
  if Number.Word.holdsSigned 64 i then some (i, skipSpace (cs.dropWhile Text.Decimal.isDigit))
  else none

/-- The steps of a path after its first name: `.name` and `[n]`. -/
def steps? : Nat → List Char → Option (List Step)
  | _, [] => some []
  | 0, _ => none
  | fuel + 1, '.' :: cs =>
    let name := cs.takeWhile nameChar
    if name.isEmpty then none
    else (steps? fuel (cs.dropWhile nameChar)).map (.key (String.ofList name) :: ·)
  | fuel + 1, '[' :: cs =>
    match index? cs with
    | some (n, ']' :: cs) => (steps? fuel cs).map (.index n :: ·)
    | _ => none
  | _ + 1, _ => none

/-- The path that a key at the top of a layer means. A key that is no path means itself. -/
def path (key : String) : List Step :=
  let cs := key.toList
  let name := cs.takeWhile nameChar
  let rest := cs.dropWhile nameChar
  match name.isEmpty, steps? (rest.length + 1) rest with
  | false, some steps => .key (String.ofList name) :: steps
  | _, _ => [.key key]

/-- A layer laid over those below. -/
def addLayer (below : Node) (layer : List (String × Node)) : Node :=
  layer.foldl (fun below (key, value) => layAt (path key) value below) below

/-! ### From JSON -/

mutual

/-- A JSON value as a value of settings. Integers beyond 64 bits are floating-point numbers, and so
is a zero with a minus sign. -/
def ofJson (origin : String) : Json.Value → Node
  | .null => null
  | .bool b => scalar origin (.bool b)
  | .number n =>
    match n with
    | .integer negative size =>
      let i : Int := if negative then -size else size
      if Number.Word.holdsEither 64 i ∧ ¬(negative ∧ size = 0) then scalar origin (.int i)
      else scalar origin (.float n.float)
    | .real _ => scalar origin (.float n.float)
  | .string s => scalar origin (.text s)
  | .array items => list origin (ofJsonItems origin items)
  | .object members => table (ofJsonMembers origin members)

def ofJsonItems (origin : String) : List Json.Value → List Node
  | [] => []
  | v :: rest => ofJson origin v :: ofJsonItems origin rest

def ofJsonMembers (origin : String) : List (String × Json.Value) → List (String × Node)
  | [] => []
  | (k, v) :: rest => (k, ofJson origin v) :: ofJsonMembers origin rest

end

end Node
end Timelines.Settings
