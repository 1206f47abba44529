import Timelines.Json.Printer

/-! An order of JSON values: that of their texts, with members in the order of their names. -/
namespace Timelines.Json.Value

mutual

/-- The value with all members in the order of their names. -/
def inOrder : Value → Value
  | array items => array (itemsInOrder items)
  | object members => object ((membersInOrder members).mergeSort fun a b => !decide (b.1 < a.1))
  | v => v

def itemsInOrder : List Value → List Value
  | [] => []
  | v :: rest => inOrder v :: itemsInOrder rest

def membersInOrder : List (String × Value) → List (String × Value)
  | [] => []
  | (key, v) :: rest => (key, inOrder v) :: membersInOrder rest

end

/-- The text by which a value is ordered; values of one text are the same but for the order of their
members. -/
def key (v : Value) : String := v.inOrder.compact

def sort (vs : List Value) : List Value :=
  ((vs.map fun v => (v.key, v)).mergeSort fun a b => !decide (b.1 < a.1)).map (·.2)

end Timelines.Json.Value
