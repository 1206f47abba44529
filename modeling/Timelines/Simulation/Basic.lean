import Timelines.Post.Clock
import Timelines.Service.Create
import Timelines.Service.Read
import Timelines.Service.Request

/-! The engine on virtual time.

Calls and their background work are threads that run until they wait: for the answer of a peer, for
a timer, or for each other. Threads that can go on do so in the order in which they were woken; when
none can, time jumps to the next timer. Timers of one instant go off in the order in which they were
set. One call at a time may run in the foreground: it goes before all others at the start of an
instant and after them otherwise.

No thread holds up the others for long. A thread may pass a number of waiting points in one turn;
then it gives way until the others have had a round. Waiting points are the dispatch of a follower,
taking hold of the queue, taking something out of it, and the end of a time that was waited for.

Peers are a parameter: each request reaches its peer when it is made, which tells how long the
answer takes, and is answered when that time is over. -/
namespace Timelines.Simulation
open Service

/-! ### Peers -/

/-- A request has reached its peer. -/
structure Arrival (τ : Type) where
  /-- Milliseconds until the answer; none comes without. -/
  delay : Option Nat
  /-- The call that is cancelled by the request's arrival. -/
  cancels : Option Nat
  /-- What the peer remembers of the arrival. -/
  ticket : τ

/-- Peers on a world `ω`. Times are in milliseconds. -/
structure Peers (ω τ : Type) where
  receive : (now : Nat) → Request → ω → Arrival τ × ω
  reply : (now : Nat) → (r : Request) → τ → ω → r.Reply × ω

/-! ### Threads -/

inductive Thread
  | call (n : Nat)
  | worker (n w : Nat)
  | refill (n : Nat)
  | retry (n : Nat)
  /-- Cancels a call when its time has come. -/
  | alarm (n : Nat)
  deriving DecidableEq, Inhabited

/-- What a timer is for. -/
inductive Purpose
  /-- A peer answers a thread; a call that brings slices up to date waits for several answers. -/
  | answer (thread : Thread) (follower : Option UserId)
  /-- A thread has waited long enough. -/
  | deadline (thread : Thread)
  /-- The foreground has slept. -/
  | slept
  deriving DecidableEq, Inhabited

structure Timer where
  due : Nat
  purpose : Purpose
  deriving Inhabited

inductive Call
  | create (call : Create)
  | read (call : Read)
  deriving Inhabited

/-- What a call gave. -/
inductive Outcome
  | created (id : PostId)
  | timeline (posts : List Post)
  | failed (failure : Failure)
  deriving Inhabited

namespace Call

def outcome? : Call → Option Outcome
  | create c => c.result?.map fun
    | .ok id => .created id
    | .error f => .failed f
  | read c => c.result?.map fun
    | .ok posts => .timeline posts
    | .error f => .failed f

def cancellable : Call → Bool
  | create c => c.cancellable
  | read c => c.cancellable

def broken : Call → Bool
  | create { stage := .broken, .. } => true
  | _ => false

end Call

/-- A call under way. -/
structure Caller where
  call : Call
  cancelled : Bool
  /-- When the call is to be cancelled, in milliseconds after its start. -/
  alarm : Option Nat
  /-- Followers whose slices can be gone on with. -/
  turns : List UserId
  refill : Option Refill
  retry : Option Retry
  /-- The worker that has the queue in its hands and found nothing in it. -/
  holder : Option Nat
  deriving Inhabited

structure State (ω τ : Type) where
  config : Config
  now : Nat
  clock : Clock
  /-- The wall clock in nanoseconds since 1970 at the virtual time zero. -/
  wall : Int
  /-- How many correlation ids were given. -/
  correlations : Nat
  world : ω
  callers : Array Caller
  ready : List Thread
  /-- How many waiting points the running thread may still pass in its turn. -/
  turn : Nat
  /-- Threads that gave way, the latest first. -/
  yielded : List Thread
  foreground : Option Nat
  /-- The foreground can go on. -/
  awake : Bool
  timers : List Timer
  /-- Timers that went off and were not seen yet. -/
  expired : List Purpose
  /-- Requests under way. -/
  tickets : List ((Thread × Option UserId) × τ)
  /-- What was reported, the latest first. -/
  reports : List Report

abbrev Run (ω τ : Type) := StateM (State ω τ)

variable {ω τ : Type}

def State.start (config : Config) (wall : Int) (world : ω) : State ω τ :=
  { config, now := 0, clock := .start, wall, correlations := 0, world, callers := #[]
    ready := [], turn := 0, yielded := [], foreground := none, awake := false
    timers := [], expired := [], tickets := [], reports := [] }

/-- Lets a thread go on; one that gave way has to wait for the others all the same. -/
def wake (t : Thread) : Run ω τ Unit := modify fun s =>
  if t ∈ s.yielded ∨ t ∈ s.ready then s
  else if s.foreground.map .call = some t then { s with awake := true }
  else { s with ready := s.ready ++ [t] }

/-- Passes a waiting point, or gives way if the turn is over. -/
def pass (t : Thread) : Run ω τ Bool := modifyGet fun s =>
  match s.turn with
  | 0 => (false, { s with yielded := t :: s.yielded })
  | turn + 1 => (true, { s with turn })

/-- Wakes the threads that gave way. -/
def resume : Run ω τ Unit := do
  let yielded := (← get).yielded
  modify fun s => { s with yielded := [] }
  yielded.forM wake

def report (rs : List Report) : Run ω τ Unit := modify fun s =>
  { s with reports := rs.reverse ++ s.reports }

/-- Sets a timer behind those that are due no later. -/
def setTimer (purpose : Purpose) (delay : Nat) : Run ω τ Unit := modify fun s =>
  let timer : Timer := ⟨s.now + delay, purpose⟩
  { s with timers := s.timers.takeWhile (·.due ≤ timer.due) ++
      timer :: s.timers.dropWhile (·.due ≤ timer.due) }

/-- Forgets a timer, gone off or not. -/
def dropTimer (purpose : Purpose) : Run ω τ Unit := modify fun s =>
  { s with timers := s.timers.filter (·.purpose ≠ purpose)
           expired := s.expired.filter (· ≠ purpose) }

/-- Whether a time is over that runs from the first asking. -/
def waited (t : Thread) (delay : Nat) : Run ω τ Bool := do
  let s ← get
  let purpose := Purpose.deadline t
  if delay = 0 ∨ purpose ∈ s.expired then
    dropTimer purpose
    return true
  else
    if !s.timers.any (·.purpose = purpose) then setTimer purpose delay
    return false

def modifyCaller (n : Nat) (f : Caller → Caller) : Run ω τ Unit := modify fun s =>
  { s with callers := s.callers.modify n f }

def cancel (n : Nat) : Run ω τ Unit := do
  modifyCaller n fun c => { c with cancelled := true }
  wake (.call n)

/-! ### Requests -/

/-- Makes a request, or looks for the answer to the one that was made. -/
def ask (peers : Peers ω τ) (t : Thread) (follower : Option UserId) (r : Request) :
    Run ω τ (Option r.Reply) := do
  let s ← get
  let purpose := Purpose.answer t follower
  let answer (ticket : τ) : Run ω τ (Option r.Reply) := modifyGet fun s =>
    let (reply, world) := peers.reply s.now r ticket s.world
    (some reply, { s with world })
  match s.tickets.lookup (t, follower) with
  | some ticket =>
    if purpose ∈ s.expired then
      dropTimer purpose
      modify fun s =>
        { s with turn := s.turn - 1, tickets := s.tickets.filter (·.1 ≠ (t, follower)) }
      answer ticket
    else return none
  | none =>
    let (arrival, world) := peers.receive s.now r s.world
    set { s with world }
    if let some n := arrival.cancels then cancel n
    match arrival.delay with
    | some 0 => answer arrival.ticket
    | delay =>
      modify fun s => { s with tickets := ((t, follower), arrival.ticket) :: s.tickets }
      if let some ms := delay then setTimer purpose ms
      return none

/-- Lets go of a request: it will not be answered. -/
def abandon (t : Thread) : Run ω τ Unit := do
  dropTimer (.answer t none)
  modify fun s => { s with tickets := s.tickets.filter (·.1 ≠ (t, none)) }

end Timelines.Simulation
