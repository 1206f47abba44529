/-! Numbers in digits of a base, the most significant first. What a digit looks like is up to the
system of digits; `read?_write` needs no more of it than that each digit is read as its value. -/
namespace Timelines.Text.Digits

/-- The lowest `width` digits of `n`, leading zeros included. -/
def write (base : Nat) (digit : Nat → Char) : Nat → Nat → List Char
  | 0, _ => []
  | width + 1, n => write base digit width (n / base) ++ [digit (n % base)]

/-- The number a run of digits names, after the digits already read into `acc`. -/
def read? (base : Nat) (value? : Char → Option Nat) (acc : Nat) : List Char → Option Nat
  | [] => some acc
  | c :: rest => (value? c).bind fun d => read? base value? (base * acc + d) rest

theorem length_write (base : Nat) (digit : Nat → Char) (width n : Nat) :
    (write base digit width n).length = width := by
  induction width generalizing n with
  | zero => rfl
  | succ width ih => simp [write, ih]

theorem read?_append (base : Nat) (value? : Char → Option Nat) (acc : Nat) (a b : List Char) :
    read? base value? acc (a ++ b) =
      (read? base value? acc a).bind fun m => read? base value? m b := by
  induction a generalizing acc with
  | nil => rfl
  | cons c a ih => cases h : value? c <;> simp [read?, h, ih]

/-- Digits read back as the number they were written for, cut to the width. -/
theorem read?_write {base : Nat} {digit : Nat → Char} {value? : Char → Option Nat} (hb : 0 < base)
    (hd : ∀ n < base, value? (digit n) = some n) (width n acc : Nat) :
    read? base value? acc (write base digit width n) =
      some (acc * Nat.pow base width + n % Nat.pow base width) := by
  induction width generalizing n acc with
  | zero => simp [write, read?, Nat.mod_one]
  | succ width ih =>
    rw [write, read?_append, ih]
    simp only [Option.bind_some, read?, hd _ (Nat.mod_lt n hb), Option.some.injEq]
    simp only [Nat.pow_eq]
    rw [Nat.pow_succ, Nat.mul_comm (base ^ width) base, Nat.mod_mul, Nat.mul_add]
    have : base * (acc * base ^ width) = acc * (base * base ^ width) := by ac_rfl
    omega

theorem mem_write {base : Nat} {digit : Nat → Char} (hb : 0 < base) {width n : Nat} {c : Char}
    (h : c ∈ write base digit width n) : ∃ d < base, c = digit d := by
  induction width generalizing n with
  | zero => simp [write] at h
  | succ width ih =>
    simp only [write, List.mem_append, List.mem_singleton] at h
    obtain h | rfl := h
    · exact ih h
    · exact ⟨n % base, Nat.mod_lt n hb, rfl⟩

/-- A number read from digits has no more of them. -/
theorem read?_lt {base : Nat} {value? : Char → Option Nat}
    (hv : ∀ {c d}, value? c = some d → d < base) {acc : Nat} {cs : List Char} {n : Nat}
    (h : read? base value? acc cs = some n) : n < (acc + 1) * Nat.pow base cs.length := by
  induction cs generalizing acc with
  | nil =>
    obtain rfl : acc = n := by simpa [read?] using h
    simp
  | cons c cs ih =>
    obtain ⟨d, hd, h⟩ := Option.bind_eq_some_iff.mp h
    calc n < (base * acc + d + 1) * Nat.pow base cs.length := ih h
      _ ≤ (base * (acc + 1)) * Nat.pow base cs.length :=
        Nat.mul_le_mul_right _ (by have := hv hd; rw [Nat.mul_add]; omega)
      _ = (acc + 1) * Nat.pow base (c :: cs).length := by
        rw [List.length_cons, Nat.pow_eq, Nat.pow_eq, Nat.pow_succ]
        ac_rfl

end Timelines.Text.Digits
