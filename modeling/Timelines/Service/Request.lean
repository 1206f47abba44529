import Timelines.Peer.Failure
import Timelines.Post.Event

/-! What the engine asks of its peers, and the shape of their answers. -/
namespace Timelines.Service

inductive Request
  /-- Whether the social graph knows a user. -/
  | userExists (user : UserId)
  | followers (user : UserId)
  /-- Records a post. -/
  | save (draft : Draft)
  /-- Puts a post into a timeline. -/
  | write (owner : UserId) (post : Post)
  /-- The newest posts of a timeline. -/
  | query (owner : UserId) (limit : Nat)
  | publish (event : Event)
  | cacheGet (user : UserId)
  | cacheVersion (user : UserId)
  | cacheRefill (user : UserId) (posts : List Post) (version : Nat)
  | cachePush (user : UserId) (post : Post) (maxLength : Nat)
  | cacheInvalidate (user : UserId)
  deriving DecidableEq, Inhabited

namespace Request

/-- What a peer gives when it does what was asked. -/
abbrev Result : Request → Type
  | userExists _ => Bool
  | followers _ => List UserId
  | save _ => PostId
  | write _ _ => Unit
  | query _ _ => List Post
  | publish _ => Unit
  | cacheGet _ => Option (List Post)
  | cacheVersion _ => Nat
  | cacheRefill _ _ _ => Bool
  | cachePush _ _ _ => Unit
  | cacheInvalidate _ => Unit

/-- How a peer fails. -/
abbrev Error : Request → Type
  | userExists _ | followers _ => GraphError
  | save _ | write _ _ | query _ _ => StoreError
  | publish _ => PublishError
  | _ => CacheError

/-- An answer. -/
abbrev Reply (r : Request) : Type := Except r.Error r.Result

end Request

/-- A request under way, and the move that its answer makes. -/
structure Question (μ : Type) where
  request : Request
  answered : request.Reply → μ

end Timelines.Service
