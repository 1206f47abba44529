import Timelines.Number.Word
import Timelines.Text.Digits

/-! Decimal digits: one digit to a value and back, runs of a fixed width, and runs as long as they
go. -/
namespace Timelines.Text.Decimal

/-- The value of a digit. -/
def value? (c : Char) : Option Nat :=
  if 48 ≤ c.toNat ∧ c.toNat ≤ 57 then some (c.toNat - 48) else none

def isDigit (c : Char) : Bool := (value? c).isSome

/-- The digit of a value below ten. -/
def digit (n : Nat) : Char := Char.ofNat (48 + n)

/-- The lowest `width` digits of `n`, leading zeros included. -/
def padded (width n : Nat) : List Char := Digits.write 10 digit width n

/-- The number a run of digits names, after the digits already read into `acc`. -/
def read? (acc : Nat) (cs : List Char) : Option Nat := Digits.read? 10 value? acc cs

/-- A nonempty run of digits and nothing else. -/
def natural? (cs : List Char) : Option Nat :=
  if cs.isEmpty then none else read? 0 cs

/-- Digits that may follow a plus sign, as a number of 64 bits. -/
def word? (s : String) : Option Nat :=
  let cs := s.toList
  match natural? (if cs.head? = some '+' then cs.drop 1 else cs) with
  | some n => if n < Number.Word.count 64 then some n else none
  | none => none

/-- Exactly `width` digits at the front, and what follows them. -/
def take? (width : Nat) (cs : List Char) : Option (Nat × List Char) :=
  let front := cs.take width
  if front.length = width then (read? 0 front).map fun n => (n, cs.drop width) else none

theorem value?_digit {n : Nat} (h : n < 10) : value? (digit n) = some n := by
  have : ∀ n < 10, value? (digit n) = some n := by decide
  exact this n h

@[simp] theorem length_padded (width n : Nat) : (padded width n).length = width :=
  Digits.length_write ..

/-- Padded digits read back as the number, cut to the width. -/
theorem read?_padded (width n acc : Nat) :
    read? acc (padded width n) = some (acc * Nat.pow 10 width + n % Nat.pow 10 width) :=
  Digits.read?_write (by decide) (fun _ => value?_digit) width n acc

/-- Padded digits are taken from the front of a text. -/
theorem take?_padded (width n : Nat) (rest : List Char) :
    take? width (padded width n ++ rest) = some (n % Nat.pow 10 width, rest) := by
  have h := length_padded width n
  simp [take?, h, read?_padded]

theorem take?_padded_of_lt {width n : Nat} (h : n < Nat.pow 10 width) (rest : List Char) :
    take? width (padded width n ++ rest) = some (n, rest) := by
  rw [take?_padded, Nat.mod_eq_of_lt h]

theorem isDigit_of_mem_padded {width n : Nat} {c : Char} (h : c ∈ padded width n) :
    isDigit c = true := by
  obtain ⟨d, hd, rfl⟩ := Digits.mem_write (by decide) h
  simp [isDigit, value?_digit hd]

theorem value?_lt {c : Char} {d : Nat} (h : value? c = some d) : d < 10 := by
  unfold value? at h
  split at h
  next hc =>
    cases h
    omega
  next => cases h

theorem read?_lt {cs : List Char} {n : Nat} (h : read? 0 cs = some n) :
    n < Nat.pow 10 cs.length := by
  simpa using Digits.read?_lt value?_lt h

/-- A number of so many digits. -/
theorem take?_lt {width n : Nat} {cs rest : List Char} (h : take? width cs = some (n, rest)) :
    n < Nat.pow 10 width := by
  simp only [take?] at h
  split at h
  next hl =>
    obtain ⟨m, hm, hn⟩ := Option.map_eq_some_iff.mp h
    cases hn
    have := read?_lt hm
    rwa [hl] at this
  next => cases h

end Timelines.Text.Decimal
