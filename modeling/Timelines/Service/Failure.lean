import Timelines.Peer.Failure
import Timelines.Post.Basic

/-! How a call of the engine can fail. -/
namespace Timelines.Service

inductive Failure
  | invalidContent (violation : Violation)
  | authorNotFound (author : String)
  | authorLookupFailed (cause : GraphError)
  | persistenceFailed (cause : StoreError)
  | publishFailed (post : PostId) (cause : PublishError)
  /-- The caller cancelled. With a post the call had recorded it before. -/
  | cancelled (post : Option PostId)
  deriving DecidableEq, Inhabited

namespace Failure

def message : Failure → String
  | invalidContent v => "invalid content: " ++ v.message
  | authorNotFound author => s!"author `{author}` does not exist"
  | authorLookupFailed cause => "author lookup failed: " ++ cause.message
  | persistenceFailed cause => "persistence failed: " ++ cause.message
  | publishFailed post cause =>
    "post " ++ post.text ++ " was recorded but its created event was not published: " ++
      cause.message
  | cancelled _ => "operation cancelled"

/-- Whether the same call could succeed another time. -/
def retryable : Failure → Bool
  | invalidContent _ | authorNotFound _ => false
  | _ => true

/-- The post that was recorded although the call failed. -/
def recorded? : Failure → Option PostId
  | publishFailed post _ => some post
  | cancelled post => post
  | _ => none

end Failure
end Timelines.Service
