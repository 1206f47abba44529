import Timelines.Text.Decimal

/-! Natural numbers below a bound, in decimal digits that may follow a plus sign. Of two faults the
one further to the left counts. -/
namespace Timelines.Number.Bounded
open Text

inductive Fault
  | empty
  | notDigit
  | tooLarge
  deriving DecidableEq, Inhabited

def Fault.message : Fault → String
  | empty => "cannot parse integer from empty string"
  | notDigit => "invalid digit found in string"
  | tooLarge => "number too large to fit in target type"

/-- The number that digits name after the digits already read into `acc`. -/
def readOn (bound acc : Nat) : List Char → Except Fault Nat
  | [] => .ok acc
  | c :: cs =>
    match Decimal.value? c with
    | none => .error .notDigit
    | some d => if 10 * acc + d < bound then readOn bound (10 * acc + d) cs else .error .tooLarge

def read (bound : Nat) (s : String) : Except Fault Nat :=
  match s.toList with
  | [] => .error .empty
  | '+' :: c :: cs => readOn bound 0 (c :: cs)
  | cs => readOn bound 0 cs

/-- What is read is below the bound. -/
theorem lt_of_readOn {bound acc n : Nat} {cs : List Char} (ha : acc < bound)
    (h : readOn bound acc cs = .ok n) : n < bound := by
  induction cs generalizing acc with
  | nil => cases h; exact ha
  | cons c cs ih =>
    simp only [readOn] at h
    split at h
    · cases h
    · split at h
      · exact ih ‹_› h
      · cases h

end Timelines.Number.Bounded
