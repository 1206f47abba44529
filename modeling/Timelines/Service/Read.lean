import Timelines.Service.Background
import Timelines.Service.Failure
import Timelines.Service.Request

/-! Reading a timeline.

A slice from the cache that is not empty answers at once. Otherwise the user's version is asked for
and then the store for the newest posts, and a refill of the cache is set going, which the call
waits for no longer than the guard. Failures of the cache are passed over. The caller's cancelling
is seen while the store is asked. -/
namespace Timelines.Service
open Report

/-- How far a call has come: what it waits for. -/
inductive ReadStage
  | askingCache
  | askingVersion
  | querying (version : Option Nat)
  | refilling (posts : List Post)
  | finished (result : Except Failure (List Post))
  deriving Inhabited

structure Read where
  user : UserId
  stage : ReadStage
  deriving Inhabited

namespace Read

def start (user : UserId) : Read := ⟨user, .askingCache⟩

inductive Move
  | cached (reply : Except CacheError (Option (List Post)))
  | versioned (reply : Except CacheError Nat)
  | queried (reply : Except StoreError (List Post))
  /-- The refill is over, or the guard is. -/
  | waited
  | cancelled
  deriving Inhabited

/-- The stage after a move, if the move can be made. -/
def next? (c : Config) (call : Read) : Move → Option ReadStage
  | .cached reply =>
    match call.stage, reply with
    | .askingCache, .ok (some (p :: posts)) =>
      some (.finished (.ok ((p :: posts).take c.queryLimit)))
    | .askingCache, _ => some .askingVersion
    | _, _ => none
  | .versioned reply =>
    match call.stage, reply with
    | .askingVersion, .ok version => some (.querying (some version))
    | .askingVersion, .error _ => some (.querying none)
    | _, _ => none
  | .queried reply =>
    match call.stage, reply with
    | .querying (some _), .ok (p :: posts) => some (.refilling (p :: posts))
    | .querying _, .ok posts => some (.finished (.ok posts))
    | .querying _, .error e => some (.finished (.error (.persistenceFailed e)))
    | _, _ => none
  | .waited =>
    match call.stage with
    | .refilling posts => some (.finished (.ok posts))
    | _ => none
  | .cancelled =>
    match call.stage with
    | .querying _ => some (.finished (.error (.cancelled none)))
    | _ => none

def step? (c : Config) (call : Read) (m : Move) : Option Read :=
  (call.next? c m).map fun stage => { call with stage }

/-- The request that the call waits for. -/
def question? (c : Config) (call : Read) : Option (Question Move) :=
  match call.stage with
  | .askingCache => some ⟨.cacheGet call.user, .cached⟩
  | .askingVersion => some ⟨.cacheVersion call.user, .versioned⟩
  | .querying _ => some ⟨.query call.user c.queryLimit, .queried⟩
  | _ => none

/-- What is reported of a move. -/
def reports (call : Read) : Move → List Report
  | .cached (.ok (some (_ :: _))) => [.count (.timelineReads true)]
  | .cached (.error e) => sidePathFailed .cacheRead call.user none e.message
  | .versioned (.error e) => sidePathFailed .cacheVersion call.user none e.message
  | .queried (.ok _) => [.count (.timelineReads false)]
  | _ => []

/-- The refill that a move sets going. -/
def launched? (call : Read) : Move → Option Refill
  | .queried (.ok (p :: posts)) =>
    match call.stage with
    | .querying (some version) => some ⟨call.user, p :: posts, version, false⟩
    | _ => none
  | _ => none

/-- Whether the caller's cancelling ends what the call waits for. -/
def cancellable (call : Read) : Bool :=
  match call.stage with
  | .querying _ => true
  | _ => false

def result? (call : Read) : Option (Except Failure (List Post)) :=
  match call.stage with
  | .finished r => some r
  | _ => none

end Read
end Timelines.Service
