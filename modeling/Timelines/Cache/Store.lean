import Timelines.Cache.Config
import Timelines.Cache.Versions
import Timelines.Post.Order

/-! The timeline cache: for each of a bounded number of users a slice of the timeline, its newest
posts first.

Time is in milliseconds and given to each operation. A slice that has reached the age limit is
dropped by the operation that finds it so. -/
namespace Timelines.Cache

/-- The newest posts of a timeline and when they were stored. -/
structure Slice where
  posts : List Post
  storedAt : Nat
  deriving DecidableEq, Inhabited

/-- How often a slice was found, was missed, and was dropped for another. -/
structure Tally where
  hits : Nat
  misses : Nat
  evictions : Nat
  deriving DecidableEq, Inhabited

structure Store where
  config : Config
  versions : Versions
  slices : Recency UserId Slice
  tally : Tally
  deriving Inhabited

namespace Store

def create (config : Config) : Store := ⟨config, .start, .empty, ⟨0, 0, 0⟩⟩

/-- Users with a slice, those with one past its age limit included. -/
def size (s : Store) : Nat := s.slices.size

def isEmpty (s : Store) : Bool := s.size == 0

/-- Drops all slices; versions stay. -/
def clear (s : Store) : Store := { s with slices := .empty }

def expired (s : Store) (now : Nat) (slice : Slice) : Bool :=
  match s.config.ttl with
  | some ttl => ttl ≤ now - slice.storedAt
  | none => false

/-- Stores the newest of some posts for a user. -/
def store (s : Store) (now : Nat) (u : UserId) (posts : List Post) : Store :=
  let slice : Slice := ⟨(Post.newestFirst posts).take s.config.entries, now⟩
  { s with
    slices := s.slices.put s.config.users u slice
    tally :=
      if (s.slices.victim? s.config.users u).isSome then
        { s.tally with evictions := s.tally.evictions + 1 }
      else s.tally }

/-- Gives the user a new version. -/
def advance (s : Store) (u : UserId) : Store :=
  { s with versions := s.versions.advance s.config.users u }

/-- Drops a user's slice. -/
def drop (s : Store) (u : UserId) : Store := { s with slices := s.slices.erase u }

def miss (s : Store) : Store := { s with tally := { s.tally with misses := s.tally.misses + 1 } }

def hit (s : Store) : Store := { s with tally := { s.tally with hits := s.tally.hits + 1 } }

/-- A user's slice, which counts as used. -/
def get (s : Store) (now : Nat) (u : UserId) : Option (List Post) × Store :=
  match s.slices.find? u with
  | none => (none, s.miss)
  | some slice =>
    if s.expired now slice then (none, (s.drop u).miss)
    else (some (Post.newestFirst slice.posts), { s.hit with slices := s.slices.use u })

/-- Puts a post into a user's slice. Where there is none a lone post would pass for the whole
timeline, and a post that is there already is not put in twice. -/
def push (s : Store) (now : Nat) (u : UserId) (p : Post) (maxLength : Nat) : Store :=
  let s := s.advance u
  match s.slices.find? u with
  | none => s
  | some slice =>
    if s.expired now slice then s.drop u
    else if slice.posts.any (·.id = p.id) then s
    else
      { s with
        slices := s.slices.modify u fun slice =>
          { slice with
            posts := (Post.insertInOrder p slice.posts).take
              (max 1 (min maxLength s.config.entries)) } }

/-- Drops a user's slice for a write that it does not show. -/
def invalidate (s : Store) (u : UserId) : Store := (s.advance u).drop u

/-- A user's version. -/
def version (s : Store) (u : UserId) : Nat × Store :=
  let (v, versions) := s.versions.ask s.config.users u
  (v, { s with versions })

/-- Stores posts that were read when the user had the given version, unless it has another now. -/
def refill (s : Store) (now : Nat) (u : UserId) (posts : List Post) (version : Nat) :
    Bool × Store :=
  let (v, s) := s.version u
  if v = version then (true, s.store now u posts) else (false, s)

end Store
end Timelines.Cache
