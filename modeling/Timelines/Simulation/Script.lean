import Timelines.Cache.Store
import Timelines.Simulation.Basic
import Timelines.Store.Memory

/-! Peers that follow a script.

Behind them are a store in memory, a cache, a social graph that is a list, and a publisher that
keeps what it accepts. Each peer can be told to take its time and to fail, for ever or a number of
times. A request is counted when it arrives; when its time is over it fails if it is to, and acts if
not. -/
namespace Timelines.Simulation
open Service

/-- A failure as each kind of peer would show it. -/
structure Injected where
  store : StoreError
  graph : GraphError
  publish : PublishError
  cache : CacheError
  deriving Inhabited

/-- An attempt to publish: when it ended, and whether the event was accepted. -/
structure Attempt where
  time : Nat
  event : Event
  accepted : Bool
  deriving Inhabited

structure Script where
  memory : Store.Memory
  cache : Cache.Store
  users : List UserId
  follows : List (UserId × List UserId)
  /-- Failures by peer; those with a number are used up. -/
  failures : List (String × Injected × Option Nat)
  delays : List (String × Nat)
  /-- Owners whose timelines cannot be written. -/
  unwritable : List UserId
  /-- A peer whose next request cancels a call. -/
  cancelOn : Option (String × Nat)
  /-- Requests by peer. -/
  calls : List (String × Nat)
  writing : Nat
  peakWrites : Nat
  events : List Event
  attempts : List Attempt

namespace Script

/-- The name of the peer that a request goes to. -/
def peer : Request → String
  | .userExists _ => "lookup"
  | .followers _ => "followers"
  | .save _ => "save"
  | .write _ _ => "write"
  | .query _ _ => "query"
  | .publish _ => "publish"
  | .cacheGet _ => "cache_get"
  | .cacheVersion _ => "cache_generation"
  | .cacheRefill _ _ _ => "cache_refill"
  | .cachePush _ _ _ => "cache_push"
  | .cacheInvalidate _ => "cache_invalidate"

def start (cache : Cache.Config) (users : List UserId) (follows : List (UserId × List UserId)) :
    Script where
  memory := .empty
  cache := .create cache
  users
  follows
  failures := []
  delays := []
  unwritable := []
  cancelOn := none
  calls := []
  writing := 0
  peakWrites := 0
  events := []
  attempts := []

/-- Sets the entry of a name in a list of entries. -/
def put [BEq κ] (k : κ) (v : ν) (entries : List (κ × ν)) : List (κ × ν) :=
  if entries.any (·.1 == k) then entries.map fun e => if e.1 == k then (k, v) else e
  else entries ++ [(k, v)]

/-- The rows that a query finds when it arrives. -/
def rows (s : Script) : Request → List Post
  | .query owner _ => s.memory.timeline owner
  | _ => []

def receive (_now : Nat) (r : Request) (s : Script) : Arrival (List Post) × Script :=
  let name := peer r
  let cancels := s.cancelOn.bind fun (what, n) => if what == name then some n else none
  let s := { s with calls := put name ((s.calls.lookup name).getD 0 + 1) s.calls }
  let s := match r with
    | .write _ _ =>
      { s with writing := s.writing + 1, peakWrites := max s.peakWrites (s.writing + 1) }
    | _ => s
  (⟨some ((s.delays.lookup name).getD 0), cancels, s.rows r⟩, s)

/-- The failure that a peer shows next, if it is to fail. -/
def takeFailure (s : Script) (name : String) : Option Injected × Script :=
  match s.failures.lookup name with
  | none => (none, s)
  | some (failure, none) => (some failure, s)
  | some (_, some 0) => (none, s)
  | some (failure, some (n + 1)) =>
    (some failure, { s with failures := put name (failure, some n) s.failures })

/-- A peer acts. -/
def act (s : Script) (now : Nat) (rows : List Post) : (r : Request) → r.Reply × Script
  | .userExists u => (.ok (u ∈ s.users), s)
  | .followers u => (.ok ((s.follows.lookup u).getD []), s)
  | .save draft =>
    let (id, memory) := s.memory.save draft
    (.ok id, { s with memory })
  | .write owner p =>
    if owner ∈ s.unwritable then (.error (.persistence "injected write failure"), s)
    else (.ok (), { s with memory := s.memory.write owner p })
  | .query _ limit => (Store.Memory.newest rows limit, s)
  | .publish e => (.ok (), { s with events := s.events ++ [e] })
  | .cacheGet u =>
    let (r, cache) := s.cache.get now u
    (.ok r, { s with cache })
  | .cacheVersion u =>
    let (v, cache) := s.cache.version u
    (.ok v, { s with cache })
  | .cacheRefill u posts version =>
    let (ok, cache) := s.cache.refill now u posts version
    (.ok ok, { s with cache })
  | .cachePush u p maxLength => (.ok (), { s with cache := s.cache.push now u p maxLength })
  | .cacheInvalidate u => (.ok (), { s with cache := s.cache.invalidate u })

/-- A peer fails. -/
def fail (i : Injected) : (r : Request) → r.Reply
  | .userExists _ | .followers _ => .error i.graph
  | .save _ | .write _ _ | .query _ _ => .error i.store
  | .publish _ => .error i.publish
  | .cacheGet _ | .cacheVersion _ | .cacheRefill _ _ _ | .cachePush _ _ _ | .cacheInvalidate _ =>
    .error i.cache

/-- Keeps the books of a request that was answered. -/
def settle (s : Script) (now : Nat) (accepted : Bool) : Request → Script
  | .write _ _ => { s with writing := s.writing - 1 }
  | .publish e => { s with attempts := s.attempts ++ [⟨now, e, accepted⟩] }
  | _ => s

def reply (now : Nat) (r : Request) (rows : List Post) (s : Script) : r.Reply × Script :=
  match s.takeFailure (peer r) with
  | (some i, s) => (fail i r, s.settle now false r)
  | (none, s) =>
    let (reply, s) := s.act now rows r
    (reply, s.settle now true r)

def peers : Peers Script (List Post) := ⟨receive, reply⟩

end Script
end Timelines.Simulation
