import Timelines.Database.Query
import Timelines.Http.Basic
import Timelines.Json.Order
import Timelines.Simulation.Script
import Timelines.Text.Search
import Timelines.Webhook

/-! What servers were asked, and what peers that follow a script have been through, in JSON. -/
namespace Timelines.Simulation
open Json

/-! ### Requests -/

/-- A request: where it went, and the event that it brought along. Of the event's correlation id
only is told whether the header says the same. -/
def ofRequest (r : Http.Request) : Value :=
  let header (name : String) : Value := .optional (r.headers.value? name)
  .object ([("method", .string r.method.text), ("target", .string r.target),
      ("user_agent", header "user-agent")] ++
    match r.body.bind Value.parse? with
    | some (.object event) =>
      [("content_type", header "content-type"),
        ("body", .object (event.filter (·.1 ≠ "correlation_id"))),
        ("correlation_matches_header", .bool
          ((Value.get (.object event) "correlation_id").key ==
            (header Webhook.correlationHeader).key))]
    | _ => [])

/-! ### Queries -/

def ofParameter (time : Moment → Value) : Timelines.Database.Parameter → Value
  | .text s => .string s
  | .integer n => .nat n
  | .uuid id => .string id.text
  | .time t => time (Timelines.Database.momentOf t)

/-- A text with one space in the place of blanks. -/
def spaced (s : String) : String :=
  String.intercalate " "
    (((Text.splitAll Text.isBlank s.toList).filter (!·.isEmpty)).map String.ofList)

/-- A query and its parameters. The id of a new post is made up and only told to be so; a migration
has no parameters. -/
def ofQuery (time : Moment → Value) (q : Timelines.Database.Query) : Value :=
  let sql := ("sql", Value.string (spaced q.sql))
  let parameters := q.parameters.map (ofParameter time)
  match q with
  | .apply _ => .object [sql]
  | .insertPost .. =>
    .object [sql, ("params", .array (.object [("uuid_v4", .bool true)] :: parameters.drop 1))]
  | _ => .object [sql, ("params", .array parameters)]

/-- Queries but for the bookkeeping. -/
def ofQueries (time : Moment → Value) (qs : List Timelines.Database.Query) : List Value :=
  (qs.filter (!·.bookkeeping)).map (ofQuery time)

/-! ### Scripts -/

namespace Script

/-- Attempts to publish; events are numbered as they come. -/
def attemptsToJson (s : Script) : List Value :=
  let event (e : Event) := (e.post.id, e.correlation)
  let events := s.attempts.foldl (fun seen a =>
    if seen.contains (event a.event) then seen else seen ++ [event a.event]) []
  s.attempts.map fun a =>
    .object [("t", .nat a.time), ("event", .nat (events.idxOf (event a.event))),
      ("ok", .bool a.accepted)]

def toJson (s : Script) : Value :=
  .object [("posts", .array (s.memory.posts.map Post.toJson)),
    ("timelines", .object (s.memory.timelines.map fun (u, posts) =>
      (u.text, .array (((posts.map (·.id)).mergeSort PostId.le).map PostId.toJson)))),
    ("peak_writes", .nat s.peakWrites),
    ("events", .array (s.events.map fun e =>
      .object [("kind", .string e.kind), ("post", e.post.toJson)])),
    ("attempts", .array s.attemptsToJson)]

/-- The requests by peer since there were so many. -/
def callsSince (s : Script) (before : List (String × Nat)) : List (String × Value) :=
  s.calls.filterMap fun (what, n) =>
    let m := (before.lookup what).getD 0
    if n = m then none else some (what, .nat (n - m))

end Script
end Timelines.Simulation
