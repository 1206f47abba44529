import Timelines.Peer.Failure
import Timelines.Post.Order

/-! The store of posts in memory: all posts in the order they were recorded, and the timeline of
each owner. Posts are numbered from one. -/
namespace Timelines.Store

structure Memory where
  posts : List Post
  timelines : List (UserId × List Post)
  deriving DecidableEq, Inhabited

namespace Memory

def empty : Memory := ⟨[], []⟩

/-- Records a draft under the next number. -/
def save (m : Memory) (draft : Draft) : PostId × Memory :=
  let id : PostId := ⟨.ofNat (m.posts.length + 1)⟩
  (id, { m with posts := m.posts ++ [draft.toPost id] })

/-- An owner's timeline, in the order it was written. -/
def timeline (m : Memory) (owner : UserId) : List Post := (m.timelines.lookup owner).getD []

/-- Puts a post into an owner's timeline, unless it is there. -/
def write (m : Memory) (owner : UserId) (p : Post) : Memory :=
  if (m.timeline owner).any (·.id = p.id) then m
  else if m.timelines.any (·.1 = owner) then
    { m with timelines := m.timelines.map fun e => if e.1 = owner then (owner, e.2 ++ [p]) else e }
  else { m with timelines := m.timelines ++ [(owner, [p])] }

/-- The newest of some rows. -/
def newest (rows : List Post) (limit : Nat) : Except StoreError (List Post) :=
  if limit = 0 then .error (.invalidInput "timeline limit must be positive")
  else .ok ((Post.newestFirst rows).take limit)

def query (m : Memory) (owner : UserId) (limit : Nat) : Except StoreError (List Post) :=
  newest (m.timeline owner) limit

end Memory
end Timelines.Store
