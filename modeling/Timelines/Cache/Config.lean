import Timelines.Number.Word
/-! The bounds of the timeline cache. -/
namespace Timelines.Cache

structure Config where
  /-- Users whose slices are kept. -/
  maxUsers : Nat
  /-- Posts kept in a slice. -/
  maxEntries : Nat
  /-- The age in milliseconds from which a slice counts as absent; slices without one never do. -/
  ttl : Option Nat
  deriving DecidableEq, Inhabited

namespace Config

def standard : Config := ⟨10000, 100, none⟩

/-- At least one user is kept. -/
def users (c : Config) : Nat := max 1 c.maxUsers

/-- At least one post is kept. -/
def entries (c : Config) : Nat := max 1 c.maxEntries

/-- Whether there can be a table of so many users. Its places are a power of two, an eighth of them
stay free, and its size in bytes, more than sixteen for a place, must be below `2 ^ 63`. -/
def tabled (c : Config) : Bool := c.users * 8 / 7 ≤ Number.Word.count 58

end Config
end Timelines.Cache
