/-! Maps that remember how recently their keys were used.

A map is a list of entries, the most recently used first. `use` and `put` bring a key to the front;
`find?` and `modify` leave the order alone. A `put` of a new key into a full map drops the last
entry. -/
namespace Timelines

structure Recency (κ ν : Type) where
  entries : List (κ × ν)
  deriving Inhabited

namespace Recency
variable {κ ν : Type} [DecidableEq κ]

def empty : Recency κ ν := ⟨[]⟩

def size (m : Recency κ ν) : Nat := m.entries.length

def find? (m : Recency κ ν) (k : κ) : Option ν := m.entries.lookup k

/-- The map without a key. -/
def erase (m : Recency κ ν) (k : κ) : Recency κ ν := ⟨m.entries.filter (·.1 ≠ k)⟩

/-- The map after its entry for a key was looked up and used. -/
def use (m : Recency κ ν) (k : κ) : Recency κ ν :=
  match m.find? k with
  | some v => ⟨(k, v) :: (m.erase k).entries⟩
  | none => m

/-- A new value for a key that is present. -/
def modify (m : Recency κ ν) (k : κ) (f : ν → ν) : Recency κ ν :=
  ⟨m.entries.map fun e => if e.1 = k then (k, f e.2) else e⟩

/-- The entry that a `put` of the key would drop from a map of that capacity. -/
def victim? (m : Recency κ ν) (capacity : Nat) (k : κ) : Option (κ × ν) :=
  if (m.find? k).isNone ∧ capacity ≤ m.size then m.entries.getLast? else none

/-- The map with the key in front. -/
def put (m : Recency κ ν) (capacity : Nat) (k : κ) (v : ν) : Recency κ ν :=
  match m.find? k with
  | some _ => ⟨(k, v) :: (m.erase k).entries⟩
  | none => ⟨(k, v) :: if capacity ≤ m.size then m.entries.dropLast else m.entries⟩

/-! ### What is found and how much is kept -/

theorem find?_cons (j k : κ) (v : ν) (es : List (κ × ν)) :
    find? ⟨(k, v) :: es⟩ j = if j = k then some v else find? ⟨es⟩ j := by
  by_cases h : j = k <;> simp [find?, List.lookup_cons, h, beq_false_of_ne]

theorem erase_cons (j k : κ) (v : ν) (es : List (κ × ν)) :
    erase ⟨(k, v) :: es⟩ j =
      if k = j then erase ⟨es⟩ j else ⟨(k, v) :: (erase ⟨es⟩ j).entries⟩ := by
  by_cases h : k = j <;> simp [erase, h]

theorem find?_erase_self (m : Recency κ ν) (k : κ) : (m.erase k).find? k = none := by
  obtain ⟨es⟩ := m
  induction es with
  | nil => rfl
  | cons e es ih =>
    rw [erase_cons]
    split
    · exact ih
    · rw [find?_cons, if_neg (Ne.symm ‹_›)]
      exact ih

theorem find?_erase_of_ne (m : Recency κ ν) {j k : κ} (h : j ≠ k) :
    (m.erase k).find? j = m.find? j := by
  obtain ⟨es⟩ := m
  induction es with
  | nil => rfl
  | cons e es ih =>
    rw [erase_cons, find?_cons]
    split
    next he => rw [if_neg (he ▸ h), ih]
    next => rw [find?_cons, ih]

/-- To use a key changes what is found under none. -/
theorem find?_use (m : Recency κ ν) (j k : κ) : (m.use k).find? j = m.find? j := by
  unfold use
  split
  next v hv =>
    rw [find?_cons]
    split
    next h => rw [h, hv]
    next h => exact find?_erase_of_ne m h
  next => rfl

theorem find?_put_self (m : Recency κ ν) (capacity : Nat) (k : κ) (v : ν) :
    (m.put capacity k v).find? k = some v := by
  unfold put
  split <;> simp [find?_cons]

theorem size_erase_le (m : Recency κ ν) (k : κ) : (m.erase k).size ≤ m.size :=
  List.length_filter_le ..

theorem size_erase_lt (m : Recency κ ν) {k : κ} {v : ν} (h : m.find? k = some v) :
    (m.erase k).size < m.size := by
  obtain ⟨es⟩ := m
  induction es with
  | nil => simp [find?] at h
  | cons e es ih =>
    rw [erase_cons]
    split
    · have := size_erase_le (ν := ν) ⟨es⟩ k
      simp only [size, List.length_cons] at *
      omega
    next he =>
      rw [find?_cons, if_neg (Ne.symm he)] at h
      have := ih h
      simp only [size, List.length_cons] at *
      omega

/-- A map keeps its capacity. -/
theorem size_put_le (m : Recency κ ν) (capacity : Nat) (k : κ) (v : ν) (hc : 0 < capacity)
    (h : m.size ≤ capacity) : (m.put capacity k v).size ≤ capacity := by
  unfold put
  split
  next w hw =>
    have := size_erase_lt m hw
    simp only [size, List.length_cons] at *
    omega
  next =>
    by_cases hf : capacity ≤ m.size
    · rw [if_pos hf]
      simp only [size, List.length_cons, List.length_dropLast] at *
      omega
    · rw [if_neg hf]
      simp only [size, List.length_cons] at *
      omega

end Recency
end Timelines
