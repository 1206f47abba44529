import Timelines.Json.Printer
import Timelines.Post.Ids
import Timelines.Report.Metric

/-! What the program reports as it works: notices for its log, and counts.

Two particulars of notices are left out, which do nothing but tell apart what goes on side by side:
the number of the worker whose write failed, and the id by which the lines about an event are found
together. Only their names are kept, by which lines are filtered (`Notice.fieldNames`). -/
namespace Timelines.Report
open Json

inductive Level
  | error
  | warn
  | info
  deriving DecidableEq, Inhabited

def Level.text : Level → String
  | error => "ERROR"
  | warn => "WARN"
  | info => "INFO"

/-- A line of the log. Failures are given by their text. -/
inductive Notice
  | postCreated (post : PostId) (followers delivered failed : Nat)
  | degraded (path : SidePath) (user : UserId) (post : Option PostId) (failure : String)
  | writeFailed (follower : UserId) (post : PostId) (failure : String)
  | fanoutCut (post : PostId) (dispatched remaining : Nat)
  | publishFailed (post : Uuid) (attempt maxAttempts : Nat) (failure : String)
  | eventDropped (post : Uuid)
  | eventDelivered (post : Uuid)
  | eventLogged (kind : String) (post : Uuid) (author : String)
  | eventsMissed (skipped : Nat)
  | followerSkipped (user : UserId) (failure : String)
  | migrationsApplied
  | interrupted
  | programFailed (failure : String)
  deriving DecidableEq, Inhabited

namespace Notice

def level : Notice → Level
  | postCreated .. | eventDelivered .. | eventLogged .. | migrationsApplied => .info
  | eventDropped .. | programFailed .. => .error
  | _ => .warn

def message : Notice → String
  | postCreated .. => "post created"
  | degraded .. => "degraded"
  | writeFailed .. => "timeline entry write failed"
  | fanoutCut .. => "fan-out cancelled, draining queued writes"
  | publishFailed .. => "post created event publish failed"
  | eventDropped .. => "post created event dropped after exhausting retries"
  | eventDelivered .. => "post created event delivered"
  | eventLogged .. => "post created event"
  | eventsMissed .. => "event log subscriber lagged behind"
  | followerSkipped .. => "skipping malformed follower id"
  | migrationsApplied => "migrations applied"
  | interrupted => "interrupt received, cancelling in-flight operation"
  | programFailed .. => "application error"

/-- The particulars, each under its name. -/
def fields : Notice → List (String × Value)
  | postCreated post followers delivered failed =>
    [("post_id", .string post.text), ("followers", .nat followers),
      ("delivered", .nat delivered), ("failed", .nat failed)]
  | degraded path user post failure =>
    [("path", .string path.text), ("user_id", .string user.text)] ++
      (match post with
        | some post => [("post_id", .string post.text)]
        | none => []) ++
      [("error", .string failure)]
  | writeFailed follower post failure =>
    [("follower_id", .string follower.text), ("post_id", .string post.text),
      ("error", .string failure)]
  | fanoutCut post dispatched remaining =>
    [("post_id", .string post.text), ("dispatched", .nat dispatched),
      ("remaining", .nat remaining)]
  | publishFailed post attempt maxAttempts failure =>
    [("post_id", .string post.text), ("attempt", .nat attempt),
      ("max_attempts", .nat maxAttempts), ("error", .string failure)]
  | eventDropped post | eventDelivered post => [("post_id", .string post.text)]
  | eventLogged kind post author =>
    [("kind", .string kind), ("post_id", .string post.text), ("author_id", .string author)]
  | eventsMissed skipped => [("skipped", .nat skipped)]
  | followerSkipped user failure => [("user_id", .string user.text), ("error", .string failure)]
  | programFailed failure => [("error", .string failure)]
  | migrationsApplied | interrupted => []

/-- A notice as a JSON object. -/
def toJson (n : Notice) : Value :=
  .object (("level", .string n.level.text) :: ("message", .string n.message) :: n.fields)

end Notice

end Timelines.Report

namespace Timelines

/-- One thing that is reported: something counted, or a line of the log. -/
inductive Report
  | count (metric : Report.Metric)
  | note (notice : Report.Notice)
  deriving DecidableEq, Inhabited

/-- A side path failed: counted, and noted. -/
def Report.sidePathFailed (path : SidePath) (user : UserId) (post : Option PostId)
    (failure : String) : List Report :=
  [.count (.degraded path), .note (.degraded path user post failure)]

end Timelines
