import Timelines.Number.Word
import Timelines.Peer.Failure
import Timelines.Post.Event
import Timelines.Report.Notice
import Timelines.Service.Config
import Timelines.Service.Request

/-! Work that goes on behind a call's back: filling the cache after a read, and publishing an event
as often as need be. -/
namespace Timelines.Service
open Report

/-! ### Refills -/

/-- Posts read from the store are to be put into the cache, unless the user's version has changed
since it was asked for. -/
structure Refill where
  user : UserId
  posts : List Post
  version : Nat
  /-- The cache answered, or took too long. -/
  done : Bool
  deriving DecidableEq, Inhabited

namespace Refill

inductive Move
  | stored (reply : Except CacheError Bool)
  | expired
  deriving Inhabited

def step? (r : Refill) (_ : Move) : Option Refill :=
  if r.done then none else some { r with done := true }

/-- The request that the refill waits for. -/
def question (r : Refill) : Question Move :=
  ⟨.cacheRefill r.user r.posts r.version, .stored⟩

def reports (c : Config) (r : Refill) : Move → List Report
  | .stored (.ok _) => []
  | .stored (.error e) => sidePathFailed .cacheRefill r.user none e.message
  | .expired =>
    sidePathFailed .cacheRefill r.user none ("timed out after " ++ durationText c.refillTimeout)

end Refill

/-! ### Retries -/

/-- How far the publishing of an event has come. -/
inductive RetryStage
  /-- An attempt is under way. -/
  | attempting (attempt : Nat)
  /-- An attempt failed and another will follow. -/
  | pausing (attempt : Nat)
  | accepted
  | exhausted
  /-- A pause was longer than time can be told. -/
  | broken
  deriving DecidableEq, Inhabited

structure Retry where
  event : Event
  maxAttempts : Nat
  backoff : Nat
  stage : RetryStage
  deriving DecidableEq, Inhabited

namespace Retry

def start (event : Event) (maxAttempts backoff : Nat) : Retry :=
  ⟨event, maxAttempts, backoff, .attempting 1⟩

inductive Move
  | published (reply : Except PublishError Unit)
  | rested
  deriving Inhabited

/-- The pause after an attempt grows with their number; there is no telling durations of `2 ^ 64`
seconds and more. -/
def pause? (r : Retry) (attempt : Nat) : Option Nat :=
  if r.backoff * attempt / 1000 < Number.Word.count 64 then some (r.backoff * attempt) else none

def step? (r : Retry) : Move → Option Retry
  | .published reply =>
    match r.stage, reply with
    | .attempting _, .ok () => some { r with stage := .accepted }
    | .attempting n, .error _ =>
      if n < r.maxAttempts then
        some { r with stage := if (r.pause? n).isSome then .pausing n else .broken }
      else some { r with stage := .exhausted }
    | _, _ => none
  | .rested =>
    match r.stage with
    | .pausing n => some { r with stage := .attempting (n + 1) }
    | _ => none

/-- The request that the retries wait for. -/
def question? (r : Retry) : Option (Question Move) :=
  match r.stage with
  | .attempting _ => some ⟨.publish r.event, .published⟩
  | _ => none

def reports (r : Retry) : Move → List Report
  | .published (.error e) =>
    match r.stage with
    | .attempting n =>
      .note (.publishFailed r.event.post.id n r.maxAttempts e.message) ::
        if n < r.maxAttempts then []
        else [.count .publishFailures, .note (.eventDropped r.event.post.id)]
    | _ => []
  | _ => []

end Retry
end Timelines.Service
