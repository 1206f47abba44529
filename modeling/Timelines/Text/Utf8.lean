import Timelines.Number.Word
/-! Characters as bytes in the form UTF-8, and what is wrong with bytes that are no text.

A first byte tells how many bytes follow it, and which of them may come second. Bytes are wrong from
the first of a character that is not completed up to the byte that does not belong to it. -/
namespace Timelines.Text.Utf8

/-- What bytes begin with. -/
inductive Front
  /-- A character of some bytes. -/
  | character (c : Char) (size : Nat)
  /-- Some bytes that begin no character. -/
  | wrong (size : Nat)
  /-- A character that is not all there when the bytes end. -/
  | unfinished (size : Nat)
  deriving DecidableEq, Inhabited

def Front.size : Front → Nat
  | character _ n | wrong n | unfinished n => n

/-- How many bytes follow a first byte, and the range of the second. -/
def following? (b : Nat) : Option (Nat × Nat × Nat) :=
  if 0xC2 ≤ b ∧ b ≤ 0xDF then some (1, 0x80, 0xBF)
  else if b = 0xE0 then some (2, 0xA0, 0xBF)
  else if b = 0xED then some (2, 0x80, 0x9F)
  else if 0xE1 ≤ b ∧ b ≤ 0xEF then some (2, 0x80, 0xBF)
  else if b = 0xF0 then some (3, 0x90, 0xBF)
  else if 0xF1 ≤ b ∧ b ≤ 0xF3 then some (3, 0x80, 0xBF)
  else if b = 0xF4 then some (3, 0x80, 0x8F)
  else none

/-- The bytes that go on with a character whose second byte is in a range. -/
def goingOn (low high : Nat) : List UInt8 → List UInt8
  | [] => []
  | b :: bs =>
    if low ≤ b.toNat ∧ b.toNat ≤ high then
      b :: bs.takeWhile fun b => 0x80 ≤ b.toNat && b.toNat ≤ 0xBF
    else []

/-- What a byte and those after it begin with. -/
def front (b : UInt8) (bs : List UInt8) : Front :=
  if b.toNat < 0x80 then .character (Char.ofNat b.toNat) 1
  else
    match following? b.toNat with
    | none => .wrong 1
    | some (n, low, high) =>
      let more := goingOn low high (bs.take n)
      if more.length = n then
        .character (Char.ofNat (more.foldl (fun acc b => 64 * acc + b.toNat % 64)
          (b.toNat % Number.Word.count (6 - n)))) (n + 1)
      else if bs.length = more.length then .unfinished (more.length + 1)
      else .wrong (more.length + 1)

/-- Bytes cut into characters and what is no character. -/
def fronts : List UInt8 → List Front
  | [] => []
  | b :: bs => front b bs :: fronts (bs.drop ((front b bs).size - 1))
termination_by bs => bs.length
decreasing_by simp only [List.length_drop, List.length_cons]; omega

/-- Where bytes are no text: behind how many, and how many are wrong if they do not just end. -/
structure Fault where
  start : Nat
  size : Option Nat
  deriving DecidableEq, Inhabited

def Fault.message (f : Fault) : String :=
  match f.size with
  | some n => s!"invalid utf-8 sequence of {n} bytes from index {f.start}"
  | none => s!"incomplete utf-8 byte sequence from index {f.start}"

/-- The characters of cut bytes, the first of which stands at an index. -/
def characters (start : Nat) : List Front → Except Fault (List Char)
  | [] => .ok []
  | .character c n :: fs => (characters (start + n) fs).map (c :: ·)
  | .wrong n :: _ => .error ⟨start, some n⟩
  | .unfinished _ :: _ => .error ⟨start, none⟩

/-- The text of some bytes. -/
def decode (bs : List UInt8) : Except Fault String :=
  (characters 0 (fronts bs)).map String.ofList

/-- The text of some bytes, with a mark in the place of what is no character. -/
def decodeMarked (bs : List UInt8) : String :=
  String.ofList ((fronts bs).map fun
    | .character c _ => c
    | .wrong _ | .unfinished _ => '\uFFFD')

end Timelines.Text.Utf8
