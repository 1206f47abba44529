import Timelines.Number.Word
import Timelines.Post.Event

/-! The in-process channel of events.

It keeps the last events up to its capacity, which is a power of two. Each subscriber has the number
of the next event it is to receive. One that has fallen out of the kept events is told once how many
it lost and goes on with the oldest kept one. -/
namespace Timelines

/-- A channel and all events sent on it, oldest first. -/
structure Ring where
  capacity : Nat
  sent : Array Event
  deriving Inhabited

/-- What a subscriber receives. -/
inductive Received
  | event (e : Event)
  | lagged (lost : Nat)
  | empty
  deriving DecidableEq, Inhabited

namespace Ring

/-- The lowest power of two that is not below `n`. -/
def roundUp (n : Nat) : Nat := if n ≤ 1 then 1 else Nat.pow 2 (Nat.log2 (n - 1) + 1)

/-- The largest capacity a channel can be asked for. -/
def maxCapacity : Nat := Number.Word.count 63 - 1

/-- A channel for at least so many events; there is none of capacity zero or beyond all bounds. -/
def create? (capacity : Nat) : Option Ring :=
  if capacity = 0 ∨ maxCapacity < capacity then none else some ⟨roundUp capacity, #[]⟩

/-- The number of the event that is sent next, with which a new subscriber begins. -/
def tail (r : Ring) : Nat := r.sent.size

def send (r : Ring) (e : Event) : Ring := { r with sent := r.sent.push e }

/-- What the subscriber that is to receive event number `next` receives, and the number of the one
after it. -/
def receive (r : Ring) (next : Nat) : Received × Nat :=
  if r.tail - next > r.capacity then
    (.lagged (r.tail - r.capacity - next), r.tail - r.capacity)
  else
    match r.sent[next]? with
    | some e => (.event e, next + 1)
    | none => (.empty, next)

theorem tail_send (r : Ring) (e : Event) : (r.send e).tail = r.tail + 1 := by
  simp [tail, send]

theorem le_roundUp (n : Nat) : n ≤ roundUp n := by
  unfold roundUp
  split
  · assumption
  · have := Nat.lt_log2_self (n := n - 1)
    rw [Nat.pow_eq]
    omega

/-- A subscriber never falls back. -/
theorem le_receive (r : Ring) (next : Nat) : next ≤ (r.receive next).2 := by
  unfold receive
  split
  · dsimp only; omega
  · split <;> dsimp only <;> omega

end Ring
end Timelines
