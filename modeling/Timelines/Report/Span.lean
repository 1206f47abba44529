import Timelines.Report.Notice

/-! The stretches of work in which notices come up.

A call is a stretch of its own, and so is the fan-out within it. What goes on behind a call's back
belongs to no stretch. -/
namespace Timelines.Report

/-- What a stretch of work is about. -/
inductive Subject
  | text (s : String)
  | number (n : Nat)
  deriving DecidableEq, Inhabited

structure Span where
  name : String
  /-- The part of the program that does the work. -/
  source : String
  fields : List (String × Subject)
  deriving DecidableEq, Inhabited

namespace Span

def ofCreate (author : String) : Span :=
  ⟨"create_post", "murmur::application::timeline", [("author_id", .text author)]⟩

def ofRead (user : String) : Span :=
  ⟨"get_timeline", "murmur::application::timeline", [("user_id", .text user)]⟩

def ofFanout (post : PostId) (followers : Nat) : Span :=
  ⟨"fan_out", "murmur::application::fanout",
    [("post_id", .text post.text), ("followers", .number followers)]⟩

end Span

/-- The stretches that a notice comes up in, the outermost first, where one call is made for a user.
Events are delivered within the call if it waits for that. -/
def Notice.spans (user : String) (waits : Bool) : Notice → List Span
  | .postCreated .. | .followerSkipped .. => [.ofCreate user]
  | .eventDelivered .. => if waits then [.ofCreate user] else []
  | .fanoutCut post dispatched remaining =>
    [.ofCreate user, .ofFanout post (dispatched + remaining)]
  | .degraded path .. =>
    match path with
    | .followers | .cacheInvalidate | .cachePush => [.ofCreate user]
    | .cacheRead | .cacheVersion => [.ofRead user]
    | .cacheRefill => []
  | _ => []

/-- The names of all that a notice tells. -/
def Notice.fieldNames (n : Notice) : List String :=
  "message" :: (n.fields.map (·.1) ++
    match n with
    | .writeFailed .. => ["worker"]
    | .publishFailed .. | .eventDropped .. | .eventDelivered .. | .eventLogged .. =>
      ["correlation_id"]
    | _ => [])

end Timelines.Report
