import Timelines.Number.Scaled

/-! JSON as it was written.

A document is the tree of a text, up to the place where the text stops being JSON. It keeps apart
the faults of the text itself and those met only by a reader who wants a value: a string with half
of a surrogate pair and a number beyond all bounds are nothing to one who passes over them. -/
namespace Timelines.Json

/-- Why a text does not give the wanted value: it is no JSON, it ends too soon, or it is JSON of
another shape. -/
inductive Fault
  | malformed
  | truncated
  | mismatched
  deriving DecidableEq, Inhabited

/-- Where a text stops being JSON: the fault that a reader of the broken part meets, and the fault
met in passing over it. -/
structure Break where
  reading : Fault
  skipping : Fault
  deriving DecidableEq, Inhabited

namespace Break

def malformed : Break := ⟨.malformed, .malformed⟩
def truncated : Break := ⟨.truncated, .truncated⟩

end Break

/-- A number as written: integers have neither a point nor a power. Of other numbers the leading
digits are kept. -/
inductive Number
  | integer (negative : Bool) (size : Nat)
  | real (value : Scientific)
  deriving DecidableEq, Inhabited

namespace Number

/-- The number as a decimal with a mantissa of 64 bits. -/
def scientific : Number → Scientific
  | integer negative size => .ofLeadingDigits negative (Nat.toDigits 10 size) [] 0
  | real value => value

/-- The floating-point number that a number is read as. -/
def float (n : Number) : Binary64 := .scaled n.scientific

/-- Numbers beyond all floating-point numbers. -/
def unbounded (n : Number) : Bool := !n.float.isFinite

end Number

/-- The tree of a text. A broken item or member is the last of its list, and `ending` tells what
stands where the bracket should be. -/
inductive Doc
  | null
  | bool (value : Bool)
  | number (value : Number)
  | string (value : Except Fault String)
  | array (items : List Doc) (ending : Option Break)
  | object (members : List (Except Fault String × Doc)) (ending : Option Break)
  | broken (b : Break)
  deriving Inhabited

namespace Doc

/-- The fault met where a list ends. -/
def passEnding : Option Break → Except Fault Unit
  | none => .ok ()
  | some b => .error b.skipping

mutual

/-- Passes over a value of any shape. -/
def skip : Doc → Except Fault Unit
  | array items ending => do skipItems items; passEnding ending
  | object members ending => do skipMembers members; passEnding ending
  | broken b => .error b.skipping
  | _ => .ok ()

def skipItems : List Doc → Except Fault Unit
  | [] => .ok ()
  | d :: rest => do skip d; skipItems rest

def skipMembers : List (Except Fault String × Doc) → Except Fault Unit
  | [] => .ok ()
  | (_, d) :: rest => do skip d; skipMembers rest

end

/-- The fault of one who wanted a value of another shape. -/
def mismatch : Doc → Fault
  | number n => if n.unbounded then .malformed else .mismatched
  | string (.error f) => f
  | broken b => b.reading
  | _ => .mismatched

/-- Reads a string. -/
def readString : Doc → Except Fault String
  | string s => s
  | d => .error d.mismatch

/-- Reads the items of a list in order. -/
def readItems (read : Doc → Except Fault α) : List Doc → Except Fault (List α)
  | [] => .ok []
  | d :: rest => do return (← read d) :: (← readItems read rest)

/-- Where reading a list comes to its end. -/
def readEnding : Option Break → Except Fault Unit
  | none => .ok ()
  | some b => .error b.reading

/-- Reads a list of any length. -/
def readList (read : Doc → Except Fault α) : Doc → Except Fault (List α)
  | array items ending => do
    let values ← readItems read items
    readEnding ending
    return values
  | d => .error d.mismatch

end Doc
end Timelines.Json
