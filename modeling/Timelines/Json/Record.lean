import Timelines.Json.Parser

/-! Records in JSON: an object with members in any order, or an array of the fields in order.

Members of unknown names are passed over, and a known one may come once. What is read so far is a
value of a type `σ`, in which each field is filled in turn and from which the record is made at the
end. -/
namespace Timelines.Json

/-- A field: its name, whether a value has been read for it, and how to read one. -/
structure RecordField (σ : Type) where
  name : String
  filled : σ → Bool
  read : Doc → σ → Except Fault σ

/-- Reads members in order. A name that comes again is a fault before its value is looked at. -/
def fillMembers (fields : List (RecordField σ)) :
    List (Except Fault String × Doc) → σ → Except Fault σ
  | [], s => .ok s
  | (key, d) :: rest, s => do
    let key ← key
    match fields.find? (·.name == key) with
    | some field =>
      if field.filled s then .error .mismatched
      else fillMembers fields rest (← field.read d s)
    | none => do
      d.skip
      fillMembers fields rest s

/-- Reads items as the fields in order, and gives the items that are too many. -/
def fillItems : List (RecordField σ) → List Doc → σ → Except Fault (σ × List Doc × Bool)
  | [], items, s => .ok (s, items, true)
  | _ :: _, [], s => .ok (s, [], false)
  | field :: fields, d :: items, s => do fillItems fields items (← field.read d s)

/-- Reads a record: fills the fields from the empty value and finishes with what was read, unless a
field that must not be missing is. -/
def readRecord (fields : List (RecordField σ)) (start : σ) (finish : σ → Option α) :
    Doc → Except Fault α
  | .object members ending => do
    let s ← fillMembers fields members start
    Doc.readEnding ending
    match finish s with
    | some a => return a
    | none => .error .mismatched
  | .array items ending => do
    let (s, extra, full) ← fillItems fields items start
    if !full then Doc.readEnding ending
    match finish s with
    | none => .error .mismatched
    | some a =>
      if !extra.isEmpty then .error .malformed
      else
        Doc.readEnding ending
        return a
  | d => .error d.mismatch

end Timelines.Json
