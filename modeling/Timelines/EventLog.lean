import Timelines.Post.Ring
import Timelines.Report.Notice

/-! The log of events that are published in the process: a subscriber to the channel who notes each
event received, and how many were missed. -/
namespace Timelines

/-- A channel, and the number of the event that the log is to receive next. -/
structure EventLog where
  ring : Ring
  next : Nat
  deriving Inhabited

namespace EventLog
open Report

/-- A log of a new channel; there is none for a capacity that no channel has. -/
def open? (capacity : Nat) : Option EventLog :=
  (Ring.create? capacity).map fun ring => ⟨ring, ring.tail⟩

def publish (log : EventLog) (e : Event) : EventLog := { log with ring := log.ring.send e }

/-- What is noted of something received. -/
def notice? : Received → Option Notice
  | .event e => some (.eventLogged e.kind e.post.id e.post.author)
  | .lagged lost => some (.eventsMissed lost)
  | .empty => none

/-- Receives once. -/
def receive (log : EventLog) : Option Notice × EventLog :=
  let (received, next) := log.ring.receive log.next
  (notice? received, { log with next })

/-- Receives a number of times, or until there is nothing more. -/
def receiveMany (log : EventLog) : Nat → List Notice × EventLog
  | 0 => ([], log)
  | n + 1 =>
    match log.receive with
    | (some notice, log) =>
      let (notices, log) := log.receiveMany n
      (notice :: notices, log)
    | (none, log) => ([], log)

/-- Receives all there is: at most the word of what was missed and the events that are kept. -/
def catchUp (log : EventLog) : List Notice × EventLog :=
  log.receiveMany (log.ring.tail - log.next + 1)

end EventLog
end Timelines
