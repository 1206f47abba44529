import Timelines.Cache.Recency
import Timelines.Post.Ids

/-! Versions of the users' slices, by which a refill that lost a race with a write is told.

Each write gives its user a version never given before. Only so many users are remembered; the
others all have the highest version forgotten so far, so that forgetting can make a pending refill
look stale but never fresh.

Versions are natural numbers here and words of 64 bits in the program, so that what is proved of
them holds of a cache with fewer than 2 ^ 64 writes. -/
namespace Timelines.Cache

structure Versions where
  current : Recency UserId Nat
  lastIssued : Nat
  floor : Nat
  deriving Inhabited

namespace Versions

def start : Versions := ⟨.empty, 0, 0⟩

/-- Remembers a user's version, and forgets that of the user longest unused when there are
`capacity`. -/
def track (vs : Versions) (capacity : Nat) (u : UserId) (version : Nat) : Versions :=
  { vs with
    current := vs.current.put capacity u version
    floor :=
      match vs.current.victim? capacity u with
      | some (_, dropped) => max vs.floor dropped
      | none => vs.floor }

/-- A user's version. To ask for it counts as a use. -/
def ask (vs : Versions) (capacity : Nat) (u : UserId) : Nat × Versions :=
  match vs.current.find? u with
  | some version => (version, { vs with current := vs.current.use u })
  | none => (vs.floor, vs.track capacity u vs.floor)

/-- Gives a user the next version. -/
def advance (vs : Versions) (capacity : Nat) (u : UserId) : Versions :=
  track { vs with lastIssued := vs.lastIssued + 1 } capacity u (vs.lastIssued + 1)

end Versions
end Timelines.Cache
