import Timelines.Number.Word
import Timelines.Peer.Failure
import Timelines.Post.Basic
import Timelines.Report.Notice
import Timelines.Service.Config

/-! Spreading a post over the timelines of its author's followers.

A dispatcher puts the followers into a bounded queue one by one. A fixed number of workers stand in
line for the queue; the first in line takes the oldest follower in it, leaves the line to write the
post into that follower's timeline, and asks for the queue again. When the caller cancels, the
dispatcher stops; what is queued is still written. When nothing is queued and nothing is to come,
the first in line leaves for good, and when all have left the fan-out is over. -/
namespace Timelines.Service

/-- What a worker is doing. -/
inductive Activity
  | away
  | inLine
  | writing (follower : UserId)
  | gone
  deriving DecidableEq, Inhabited

structure Worker where
  activity : Activity
  delivered : List UserId
  failed : Nat
  deriving DecidableEq, Inhabited

structure Fanout where
  post : Post
  capacity : Nat
  /-- Followers that were not dispatched yet. -/
  rest : List UserId
  dispatched : Nat
  queue : List UserId
  workers : List Worker
  /-- Workers that asked for the queue, the first of whom holds it. -/
  line : List Nat
  /-- Workers that left, in order. -/
  left : List Nat
  /-- The caller cancelled before all followers were dispatched. -/
  cut : Bool
  deriving DecidableEq, Inhabited

/-- The outcome of a fan-out. -/
structure Spread where
  dispatched : Nat
  delivered : List UserId
  failed : Nat
  cancelled : Bool
  deriving DecidableEq, Inhabited

namespace Fanout

/-- The largest queue there can be. -/
def maxQueue : Nat := Number.Word.count 61 - 1

/-- A fan-out with no follower dispatched; no more workers than followers are put to work. -/
def start (bounds : Bounds) (post : Post) (followers : List UserId) : Fanout where
  post
  capacity := bounds.queue
  rest := followers
  dispatched := 0
  queue := []
  workers := List.replicate (min bounds.workers followers.length) ⟨.away, [], 0⟩
  line := []
  left := []
  cut := false

/-- Nothing is dispatched any more. -/
def closed (f : Fanout) : Bool := f.cut || f.rest.isEmpty

def finished (f : Fanout) : Bool := f.left.length == f.workers.length

/-- The followers reached so far, each worker's together, in the order in which the workers left. -/
def spread (f : Fanout) : Spread :=
  let workers := f.left.filterMap (f.workers[·]?)
  ⟨f.dispatched, workers.flatMap (·.delivered), workers.foldl (fun n w => n + w.failed) 0, f.cut⟩

inductive Move
  /-- The next follower goes into the queue. -/
  | dispatch
  /-- The dispatcher sees that the caller cancelled. -/
  | stop
  /-- A worker asks for the queue. -/
  | ask (worker : Nat)
  /-- The first in line takes a follower. -/
  | take
  /-- A worker's write ended. -/
  | wrote (worker : Nat) (reply : Except StoreError Unit)
  /-- The first in line finds nothing to come. -/
  | leave
  deriving Inhabited

/-- The state after a move, if the move can be made. -/
def step? (f : Fanout) : Move → Option Fanout
  | .dispatch =>
    match f.rest with
    | u :: rest =>
      if f.cut ∨ f.capacity ≤ f.queue.length then none
      else some { f with rest, queue := f.queue ++ [u], dispatched := f.dispatched + 1 }
    | [] => none
  | .stop => if f.closed then none else some { f with cut := true }
  | .ask w =>
    match f.workers[w]? with
    | some worker =>
      if worker.activity = .away then
        some { f with workers := f.workers.set w { worker with activity := .inLine }
                      line := f.line ++ [w] }
      else none
    | none => none
  | .take =>
    match f.line, f.queue with
    | w :: line, u :: queue =>
      f.workers[w]?.map fun worker =>
        { f with workers := f.workers.set w { worker with activity := .writing u }, line, queue }
    | _, _ => none
  | .wrote w reply =>
    match f.workers[w]? with
    | some worker =>
      match worker.activity, reply with
      | .writing u, .ok () =>
        some { f with workers := f.workers.set w
                        { worker with activity := .away, delivered := worker.delivered ++ [u] } }
      | .writing _, .error _ =>
        some { f with workers := f.workers.set w
                        { worker with activity := .away, failed := worker.failed + 1 } }
      | _, _ => none
    | none => none
  | .leave =>
    match f.line with
    | w :: line =>
      if f.closed ∧ f.queue = [] then
        f.workers[w]?.map fun worker =>
          { f with workers := f.workers.set w { worker with activity := .gone }
                   line, left := f.left ++ [w] }
      else none
    | [] => none

open Report in
/-- What is reported of a move. -/
def reports (f : Fanout) : Move → List Report
  | .stop => [.note (.fanoutCut f.post.id f.dispatched f.rest.length)]
  | .wrote _ (.ok ()) => [.count (.fanoutWrites true)]
  | .wrote w (.error e) =>
    match f.workers[w]? with
    | some { activity := .writing u, .. } =>
      [.count (.fanoutWrites false), .note (.writeFailed u f.post.id e.message)]
    | _ => []
  | _ => []

end Fanout
end Timelines.Service
