import Timelines.Text.Digits

/-! Hexadecimal digits: one digit to a value and back, and runs of them, most significant first. -/
namespace Timelines.Text.Hex

/-- The value of a digit, in either letter case. -/
def value? (c : Char) : Option Nat :=
  let n := c.toNat
  if 48 ≤ n ∧ n ≤ 57 then some (n - 48)
  else if 97 ≤ n ∧ n ≤ 102 then some (n - 87)
  else if 65 ≤ n ∧ n ≤ 70 then some (n - 55)
  else none

/-- The lower-case digit of a value below sixteen. -/
def digit (n : Nat) : Char :=
  Char.ofNat (if n < 10 then 48 + n else 87 + n)

/-- The upper-case digit of a value below sixteen. -/
def digitUpper (n : Nat) : Char :=
  Char.ofNat (if n < 10 then 48 + n else 55 + n)

/-- The lowest `width` digits of `n`. -/
def digits (width n : Nat) : List Char := Digits.write 16 digit width n

/-- The number a run of digits names, after the digits already read into `acc`. -/
def read? (acc : Nat) (cs : List Char) : Option Nat := Digits.read? 16 value? acc cs

theorem value?_digit {n : Nat} (h : n < 16) : value? (digit n) = some n := by
  have : ∀ n < 16, value? (digit n) = some n := by decide
  exact this n h

theorem value?_digitUpper {n : Nat} (h : n < 16) : value? (digitUpper n) = some n := by
  have : ∀ n < 16, value? (digitUpper n) = some n := by decide
  exact this n h

@[simp] theorem length_digits (width n : Nat) : (digits width n).length = width :=
  Digits.length_write ..

/-- Digits read back as the number, cut to the width. -/
theorem read?_digits (width n acc : Nat) :
    read? acc (digits width n) = some (acc * Nat.pow 16 width + n % Nat.pow 16 width) :=
  Digits.read?_write (by decide) (fun _ => value?_digit) width n acc

end Timelines.Text.Hex
