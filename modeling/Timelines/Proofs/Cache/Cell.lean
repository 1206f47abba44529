import Timelines.Proofs.Cache.Wellformed

/-! The cache of a single user.

A cell is what the cache would be if there were one user only: a version, which counts the writes of
the timeline, and maybe a slice. It has neither an order of use nor a bound on users, and a refill
is accepted just when it was asked for after the last write. -/
namespace Timelines.Cache

/-- What an operation answers. -/
inductive Answer
  | done
  | posts (posts : Option (List Post))
  | version (version : Nat)
  | accepted (accepted : Bool)
  deriving DecidableEq, Inhabited

structure Cell where
  version : Nat
  slice : Option Slice
  deriving DecidableEq, Inhabited

namespace Cell
variable (config : Config) (now : Nat)

def empty : Cell := ⟨0, none⟩

/-- The posts of a slice, unless it has reached the age limit. -/
def fresh? (slice : Slice) : Option (List Post) :=
  if config.ttl.any fun ttl => decide (ttl ≤ now - slice.storedAt) then none else some slice.posts

/-- The newest of some posts, stored now. -/
def fill (posts : List Post) : Slice :=
  ⟨(Post.newestFirst posts).take (max 1 config.maxEntries), now⟩

/-- A slice after a write of a post; one too old is dropped. It keeps the time it was stored. -/
def grow? (p : Post) (maxLength : Nat) (slice : Slice) : Option Slice :=
  (fresh? config now slice).map fun posts =>
    if ∃ q ∈ posts, q.id = p.id then slice
    else
      { slice with
        posts := (Post.insertInOrder p posts).take (max 1 (min maxLength config.maxEntries)) }

def after (c : Cell) : Operation → Cell
  | .get _ => { c with slice := c.slice.filter fun slice => (fresh? config now slice).isSome }
  | .set _ posts => { c with slice := some (fill config now posts) }
  | .push _ p maxLength => ⟨c.version + 1, c.slice.bind (grow? config now p maxLength)⟩
  | .invalidate _ => ⟨c.version + 1, none⟩
  | .version _ => c
  | .refill _ posts version =>
    if version = c.version then { c with slice := some (fill config now posts) } else c
  | .clear => { c with slice := none }

def answer (c : Cell) : Operation → Answer
  | .get _ => .posts (c.slice.bind (fresh? config now))
  | .version _ => .version c.version
  | .refill _ _ version => .accepted (version = c.version)
  | _ => .done

/-- What a cell answers to operations, each at its time. -/
def answers (c : Cell) : List (Nat × Operation) → List Answer
  | [] => []
  | (now, o) :: rest => c.answer config now o :: (c.after config now o).answers rest

end Cell
end Timelines.Cache
