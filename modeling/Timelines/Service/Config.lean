/-! The settings of the engine. Times are in milliseconds. -/
namespace Timelines.Service

/-- How followers' cached timelines come up to date once a post has been spread. -/
inductive Maintenance
  /-- Their slices are dropped and the next read fills them again. -/
  | invalidate
  /-- The post is put into the slices that are there. -/
  | push
  deriving DecidableEq, Inhabited

/-- What becomes of a post's event. -/
inductive PublishPolicy
  /-- A failure is the caller's failure, although the post is recorded. -/
  | strict
  /-- The event is published in the background, several times if need be; the caller never knows. -/
  | bestEffort (maxAttempts backoff : Nat)
  deriving DecidableEq, Inhabited

/-- The bounds of a fan-out. -/
structure Bounds where
  workers : Nat
  queue : Nat
  deriving DecidableEq, Inhabited

structure Config where
  queryLimit : Nat
  cacheMaxEntries : Nat
  refillTimeout : Nat
  refillGuard : Nat
  maintenance : Maintenance
  publish : PublishPolicy
  bounds : Bounds
  deriving DecidableEq, Inhabited

/-- A duration in its largest unit, without trailing zeros. -/
def durationText (ms : Nat) : String :=
  if ms = 0 then "0ns"
  else if ms < 1000 then s!"{ms}ms"
  else
    let padded := String.ofList ((toString (1000 + ms % 1000)).toList.drop 1)
    let fraction := (padded.toList.reverse.dropWhile (· == '0')).reverse
    toString (ms / 1000) ++ (if fraction.isEmpty then "" else "." ++ String.ofList fraction) ++ "s"

end Timelines.Service
