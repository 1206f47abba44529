/-! Labels of domain names in ASCII: the ASCII characters of a label, and behind a hyphen the others
in the order of their code points, each as the distance from the one before in generalised digits.
A distance counts the places at which a character could have stood since then. -/
namespace Timelines.Url.Punycode

def digit (n : Nat) : Char := Char.ofNat (if n < 26 then 97 + n else 22 + n)

/-- The value of a digit in lower case. -/
def value? (c : Char) : Option Nat :=
  if c.isLower then some (c.toNat - 97)
  else if c.isDigit then some (c.toNat - 22)
  else none

/-- The base above which a digit at place `k` ends a distance. -/
def threshold (bias k : Nat) : Nat :=
  if k ≤ bias then 1 else if bias + 26 ≤ k then 26 else k - bias

/-- Makes the thresholds fit the distances met so far. -/
def adapt (delta count : Nat) (first : Bool) : Nat :=
  let rec shrink : Nat → Nat → Nat → Nat
    | 0, d, k => k + 36 * d / (d + 38)
    | fuel + 1, d, k => if 455 < d then shrink fuel (d / 35) (k + 36) else k + 36 * d / (d + 38)
  let d := if first then delta / 700 else delta / 2
  shrink 64 (d + d / count) 0

/-- A distance in digits whose bases depend on their place. -/
def digits (bias : Nat) : Nat → Nat → Nat → List Char
  | 0, _, _ => []
  | fuel + 1, q, k =>
    let t := threshold bias k
    if q < t then [digit q]
    else digit (t + (q - t) % (36 - t)) :: digits bias fuel ((q - t) / (36 - t)) (k + 36)

/-- A distance at the front, and what follows it. -/
def distance? (bias : Nat) : List Char → Nat → Nat → Nat → Option (Nat × List Char)
  | [], _, _, _ => none
  | c :: cs, k, weight, sum => do
    let d ← value? c
    let t := threshold bias k
    if d < t then return (sum + d * weight, cs)
    else distance? bias cs (k + 36) (weight * (36 - t)) (sum + d * weight)

structure State where
  delta : Nat
  bias : Nat
  handled : Nat
  output : List Char

/-- Writes all places of one code point. -/
def place (n basic : Nat) (cs : List Nat) (s : State) : State :=
  cs.foldl (fun s c =>
    if c < n then { s with delta := s.delta + 1 }
    else if c = n then
      { delta := 0
        bias := adapt s.delta (s.handled + 1) (s.handled == basic)
        handled := s.handled + 1
        output := s.output ++ digits s.bias 64 s.delta 36 }
    else s) s

/-- Goes through the code points beyond ASCII in order. -/
def loop (basic : Nat) (cs : List Nat) : Nat → Nat → State → State
  | 0, _, s => s
  | fuel + 1, n, s =>
    match (cs.filter (n ≤ ·)).min? with
    | none => s
    | some m =>
      let s := { s with delta := s.delta + (m - n) * (s.handled + 1) }
      let s := place m basic cs s
      loop basic cs fuel (m + 1) { s with delta := s.delta + 1 }

/-- The ASCII form of a label, without what introduces it. -/
def encode (label : List Char) : List Char :=
  let basic := label.filter (·.toNat < 128)
  let start : State :=
    ⟨0, 72, basic.length, if basic.isEmpty then [] else basic ++ ['-']⟩
  (loop basic.length (label.map Char.toNat) (label.length + 1) 128 start).output

/-- Puts the characters that the distances tell in their places. `next` is the place, and `n` the
code point, from which the next one is looked for. -/
def restore (basic : Nat) : Nat → List Char → Nat → Nat → Nat → List Char → Option (List Char)
  | _, [], _, _, _, label => some label
  | 0, _, _, _, _, _ => none
  | fuel + 1, cs, n, next, bias, label => do
    let (delta, rest) ← distance? bias cs 36 1 0
    let count := label.length + 1
    let place := (next + delta) % count
    let n := n + (next + delta) / count
    if n < 0xD800 ∨ (0xDFFF < n ∧ n < 0x110000) then
      restore basic fuel rest n (place + 1) (adapt delta count (label.length == basic))
        (label.take place ++ Char.ofNat n :: label.drop place)
    else none

/-- The label that an ASCII form stands for. -/
def decode? (cs : List Char) : Option (List Char) :=
  let tail := (cs.reverse.takeWhile (· != '-')).reverse
  let basic := cs.take (cs.length - tail.length - 1)
  restore basic.length cs.length tail 128 0 72 basic

end Timelines.Url.Punycode
