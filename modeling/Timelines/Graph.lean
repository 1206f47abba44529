import Timelines.Http.Basic
import Timelines.Peer.Failure
import Timelines.Post.Wire
import Timelines.Report.Notice
import Timelines.Url.Parser

/-! The social graph, a web service: `users/ID` below its base URL is there if the user is, and
`users/ID/followers` lists who follows the user. -/
namespace Timelines.Graph

/-- Where the graph keeps a user, or what comes with the user. -/
def userUrl (base : Url) (user : UserId) (part : Option String) : Url :=
  let url := (base.popIfEmpty.push "users").push user.text
  match part with
  | some part => url.push part
  | none => url

/-! ### Whether a user is there -/

def lookup (base : Url) (user : UserId) : Http.Request := Http.get (userUrl base user none)

def found : Http.Reply → Except GraphError Bool
  | .error f => .error (.transport f.message)
  | .ok r =>
    if r.succeeded then .ok true
    else if r.status = 404 then .ok false
    else .error (.unexpectedStatus r.status)

/-! ### Followers -/

def followersOf (base : Url) (user : UserId) : Http.Request :=
  Http.get (userUrl base user (some "followers"))

/-- The followers as they are listed; a user without a list has none. -/
def listed : Http.Reply → Except GraphError (List String)
  | .error f => .error (.transport f.message)
  | .ok r =>
    if r.status = 404 then .ok []
    else if !r.succeeded then .error (.unexpectedStatus r.status)
    else
      match r.body.map (Json.decode Followers.read) with
      | some (.ok followers) => .ok followers.users
      | some (.error _) | none => .error (.decode Http.unreadableBody)

/-- The followers whose ids are allowed. -/
def accepted (ids : List String) : List UserId := ids.filterMap fun id => (UserId.parse id).toOption

/-- What is reported of the others. -/
def skipped (user : UserId) (ids : List String) : List Report :=
  ids.filterMap fun id =>
    match UserId.parse id with
    | .ok _ => none
    | .error v => some (.note (.followerSkipped user v.message))

end Timelines.Graph
