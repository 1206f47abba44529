import Timelines.Number.Word
import Timelines.Settings.Failure
import Timelines.Settings.Node
import Timelines.Text.Case
import Timelines.Text.Quoted

/-! Reading values of settings as texts, truth values and numbers.

Values are taken for what they can mean: words and numbers as truth values, words, truth values and
rounded fractions as numbers, and all of them as texts. A section is a table of its fields, or a
list of them in order. Of several values that cannot be taken so, the one of the first field is told
of. -/
namespace Timelines.Settings
open Text

abbrev Reading := Except Mismatch

namespace Scalar

/-- A scalar in messages. -/
def described : Scalar → String
  | bool b => s!"boolean `{b}`"
  | int n => s!"64-bit integer `{n}`"
  | float x => "floating point `" ++ x.text ++ "`"
  | text s => "string " ++ quoted s

/-- A number in messages always has a point. -/
def pointed (x : Binary64) : String :=
  if x.isFinite && !x.text.toList.contains '.' then x.text ++ ".0" else x.text

/-- A scalar in messages about sections. -/
def describedPlainly : Scalar → String
  | bool b => s!"boolean `{b}`"
  | int n => s!"integer `{n}`"
  | float x => "floating point `" ++ pointed x ++ "`"
  | text s => "string " ++ quoted s

/-- Words for truth values. -/
def truthWord? (s : String) : Option Bool :=
  if ["true", "on", "yes"].contains s then some true
  else if ["false", "off", "no"].contains s then some false
  else none

end Scalar

/-- A rounded number, brought into the range of 64 bits. -/
def roundNat (x : Binary64) : Nat :=
  match x with
  | .infinite false => Number.Word.count 64 - 1
  | _ => min (Number.Word.count 64 - 1) ((x.round?.getD 0).toNat)

namespace Node

/-- A value that is no scalar in messages. -/
def describedShape : Node → String
  | null => "unit value"
  | scalar _ s => s.described
  | list _ _ => "sequence"
  | table _ => "map"

def origin? : Node → Option String
  | scalar origin _ => origin
  | list origin _ => origin
  | _ => none

def mismatch (n : Node) (expected : String) : Reading α :=
  .error ⟨n.describedShape, expected, "", n.origin?⟩

def readText (n : Node) : Reading String :=
  match n with
  | scalar _ (.text s) => .ok s
  | scalar _ (.bool b) => .ok (toString b)
  | scalar _ (.int i) => .ok (toString i)
  | scalar _ (.float x) => .ok x.text
  | n => n.mismatch "a string"

def readBool (n : Node) : Reading Bool :=
  match n with
  | scalar _ (.bool b) => .ok b
  | scalar _ (.int i) => .ok (i != 0)
  | scalar _ (.float x) => .ok (!x.isZero)
  | scalar origin (.text s) =>
    let word := lowerText s
    if word == "1" then .ok true
    else if word == "0" then .ok false
    else
      match Scalar.truthWord? word with
      | some b => .ok b
      | none => .error ⟨"string " ++ quoted word, "a boolean", "", origin⟩
  | n => n.mismatch "a boolean"

def readNat (n : Node) : Reading Nat :=
  match n with
  | scalar _ (.bool b) => .ok (if b then 1 else 0)
  | scalar _ (.int i) =>
    if i < 0 then n.mismatch "an unsigned 64 bit or less integer" else .ok i.toNat
  | scalar _ (.float x) => .ok (roundNat x)
  | scalar _ (.text s) =>
    match Scalar.truthWord? (lowerText s) with
    | some b => .ok (if b then 1 else 0)
    | none =>
      match Decimal.word? s with
      | some m => .ok m
      | none => n.mismatch "an integer"
  | n => n.mismatch "an integer"

def readNat32 (n : Node) : Reading Nat := do
  let m ← n.readNat
  if m < Number.Word.count 32 then return m
  else .error ⟨s!"64-bit unsigned integer `{m}`", "an unsigned 32 bit integer", "", none⟩

/-- A value that may be absent. -/
def readOptional (read : Node → Reading α) : Node → Reading (Option α)
  | null => .ok none
  | n => (read n).map some

end Node

/-! ### Sections -/

/-- A field of a section, and how a value for it is put into what was read so far. -/
structure Field (σ : Type) where
  name : String
  read : Node → σ → Reading σ

/-- An optional field. -/
def Field.optional (name : String) (read : Node → Reading α) (put : Option α → σ → σ) : Field σ :=
  ⟨name, fun n s => return put (← n.readOptional read) s⟩

/-- Reads a value below a key. -/
def underKey (key : String) (r : Reading α) : Reading α :=
  match r with
  | .ok a => .ok a
  | .error m => .error (m.under key)

/-- Reads the fields in order, each from the entry of its name, if there is one. Entries of other
names are passed over, and how entries are ordered does not matter. -/
def readEntries : List (Field σ) → List (String × Node) → σ → Reading σ
  | [], _, s => .ok s
  | field :: fields, entries, s =>
    match entries.lookup field.name with
    | some n => do readEntries fields entries (← underKey field.name (field.read n s))
    | none => readEntries fields entries s

/-- Reads items as the fields in order. -/
def readItems (i : Nat) : List (Field σ) → List Node → σ → Reading σ
  | field :: fields, n :: rest, s => do
    readItems (i + 1) fields rest (← underKey s!"[{i}]" (field.read n s))
  | _, _, s => .ok s

/-- Reads a section; fields that are left out keep the values they start with. -/
def readSection (name : String) (fields : List (Field σ)) (start : σ) : Node → Reading σ
  | .table entries => readEntries fields entries start
  | .list _ items => readItems 0 fields items start
  | .scalar _ s => .error ⟨s.describedPlainly, "struct " ++ name, "", none⟩
  | .null => .error ⟨"unit value", "struct " ++ name, "", none⟩

/-- A section as a field, under the name that failures give to its kind. -/
def Field.part (name kind : String) (fields : List (Field τ)) (start : τ) (put : τ → σ → σ) :
    Field σ :=
  ⟨name, fun n s => return put (← readSection kind fields start n) s⟩

end Timelines.Settings
