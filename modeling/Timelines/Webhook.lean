import Timelines.Http.Basic
import Timelines.Peer.Failure
import Timelines.Post.Wire

/-! Announcing posts to a web server: an event is posted to one URL as JSON. -/
namespace Timelines.Webhook

/-- The header that tells an event's correlation id. -/
def correlationHeader : String := "x-correlation-id"

def delivery (url : Url) (e : Event) : Http.Request :=
  Http.postJson url [(correlationHeader, e.correlation.text)] e.toJson.compact

def delivered : Http.Reply → Except PublishError Unit
  | .error f => .error (.transport f.message)
  | .ok r => if r.succeeded then .ok () else .error (.rejected r.status)

end Timelines.Webhook
