/-! Whole numbers that words of a number of bits hold, with a sign or without one. -/
namespace Timelines.Number.Word

/-- How many numbers so many bits tell apart. -/
def count (bits : Nat) : Nat := Nat.pow 2 bits

/-- Whether a word holds a number without a sign. -/
def holds (bits : Nat) : Int → Bool
  | .ofNat n => n < count bits
  | .negSucc _ => false

/-- Whether a word holds a number where one bit is for the sign. -/
def holdsSigned (bits : Nat) : Int → Bool
  | .ofNat n | .negSucc n => n < count (bits - 1)

/-- Whether a word holds a number one way or the other. -/
def holdsEither (bits : Nat) (i : Int) : Bool := holds bits i || holdsSigned bits i

theorem holds_iff (bits : Nat) (i : Int) : holds bits i = true ↔ 0 ≤ i ∧ i < count bits := by
  cases i with
  | ofNat n => simp [holds]
  | negSucc n => simp [holds]

theorem holdsSigned_iff (bits : Nat) (i : Int) :
    holdsSigned bits i = true ↔ -(count (bits - 1) : Int) ≤ i ∧ i < count (bits - 1) := by
  cases i with
  | ofNat n =>
    simp only [holdsSigned, decide_eq_true_eq, Int.ofNat_eq_natCast]
    omega
  | negSucc n =>
    simp only [holdsSigned, decide_eq_true_eq, Int.negSucc_eq]
    omega

end Timelines.Number.Word
