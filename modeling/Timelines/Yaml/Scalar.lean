import Timelines.Number.Notation
import Timelines.Number.Word
import Timelines.Text.Hex
import Timelines.Tree

/-! Scalars of YAML: what words without quotes mean, and what becomes of the line breaks in a scalar
over several lines. -/
namespace Timelines.Yaml
open Text

/-- A scalar. A number with a fraction is kept as it was written. -/
inductive Scalar
  | null
  | bool (value : Bool)
  | int (value : Int)
  | real (text : String)
  | text (value : String)
  deriving DecidableEq, Inhabited

namespace Scalar

/-- An integer of 64 bits in digits of a base. -/
def integer? (base : Nat) (cs : List Char) : Option Int := do
  let (negative, ds) := Binary64.signed cs
  let value? (c : Char) := (Hex.value? c).bind fun d => if d < base then some d else none
  let n ← if ds.isEmpty then none else Digits.read? base value? 0 ds
  let i : Int := if negative then -n else n
  if Number.Word.holdsSigned 64 i then some i else none

/-- Words for what is not finite. -/
def unbounded : List String :=
  [".inf", ".Inf", ".INF", "+.inf", "+.Inf", "+.INF", "-.inf", "-.Inf", "-.INF", ".nan", ".NaN",
    ".NAN"]

/-- Numbers with a fraction have a digit at least. -/
def isReal (s : String) : Bool :=
  unbounded.contains s || (s.toList.any Char.isDigit && (Binary64.ofText? s).isSome)

/-- An integer with a mark of its base. -/
def marked? : List Char → Option Int
  | '0' :: 'x' :: ds => integer? 16 ds
  | '0' :: 'o' :: ds => integer? 8 ds
  | _ => none

/-- What words without quotes and tags mean. -/
def ofPlain (s : String) : Scalar :=
  match marked? s.toList with
  | some n => int n
  | none =>
    if s = "" ∨ s = "~" ∨ s = "null" then null
    else if ["true", "True", "TRUE"].contains s then bool true
    else if ["false", "False", "FALSE"].contains s then bool false
    else
      match integer? 10 s.toList with
      | some n => int n
      | none => if isReal s then real s else text s

/-- What words without quotes mean with a tag. Words that the tag does not fit mean nothing. -/
def ofTagged (tag s : String) : Scalar :=
  match tag with
  | "tag:yaml.org,2002:bool" =>
    if s = "true" then bool true else if s = "false" then bool false else null
  | "tag:yaml.org,2002:int" => ((integer? 10 s.toList).map int).getD null
  | "tag:yaml.org,2002:float" => if isReal s then real s else null
  | "tag:yaml.org,2002:null" => null
  | _ => text s

/-- The value of a scalar; what is not finite has none. -/
def toTree? : Scalar → Option Tree
  | null => some .null
  | bool b => some (.bool b)
  | int n => some (.int n)
  | real s => if unbounded.contains s then none else (Binary64.ofText? s).map .float
  | text s => some (.text s)

/-- A scalar as a key. -/
def key? : Scalar → Option String
  | null => none
  | bool b => some (toString b)
  | int n => some (toString n)
  | real s | text s => some s

end Scalar

/-! ### Lines -/

/-- What stands for a number of line breaks in a row: a space for one, and otherwise all but the
first. -/
def folded (breaks : Nat) : List Char :=
  if breaks = 1 then [' '] else List.replicate (breaks - 1) '\n'

/-- What is done with the line breaks at the end of a block. -/
inductive Chomping
  | strip
  | clip
  | keep
  deriving DecidableEq, Inhabited

/-- Whether the line breaks around a line stay as they are. -/
def ownLine (line : List Char) : Bool := line.head? = some ' ' || line.head? = some '\t'

/-- The lines of a block with a break behind each, or folded, after a line that was put down with
some breaks behind it. -/
def joinFolded (last : List Char) (breaks : Nat) : List (List Char) → List Char
  | [] => []
  | [] :: rest => joinFolded last (breaks + 1) rest
  | line :: rest =>
    (if ownLine line || ownLine last then List.replicate breaks '\n' else folded breaks) ++ line ++
      joinFolded line 1 rest

/-- The text of a block's lines, without the indentation. -/
def blockText (fold : Bool) (chomping : Chomping) (lines : List (List Char)) : String :=
  let blanks := (lines.reverse.takeWhile List.isEmpty).length
  let lines := (lines.reverse.drop blanks).reverse
  let body :=
    match fold, lines.dropWhile List.isEmpty with
    | true, first :: rest =>
      List.replicate (lines.takeWhile List.isEmpty).length '\n' ++ first ++ joinFolded first 1 rest
    | _, _ => List.intercalate ['\n'] lines
  let ending :=
    match chomping with
    | .strip => 0
    | .clip => if lines.isEmpty then 0 else 1
    | .keep => blanks + (if lines.isEmpty then 0 else 1)
  String.ofList (body ++ List.replicate ending '\n')

end Timelines.Yaml
