import Timelines.Post.Basic

/-! What is told to others: the event that announces a post, and the followers that the social graph
answers with. -/
namespace Timelines

/-- A post as others see it: its author's id is a plain text. -/
structure Payload where
  id : Uuid
  author : String
  content : String
  createdAt : Moment
  deriving DecidableEq, Inhabited

def Payload.ofPost (p : Post) : Payload := ⟨p.id.uuid, p.author.text, p.content, p.createdAt⟩

/-- The announcement of a post. Its correlation id stays the same however often it is sent. -/
structure Event where
  kind : String
  correlation : Uuid
  post : Payload
  deriving DecidableEq, Inhabited

namespace Event

/-- The kind of the events that announce a post. -/
def postCreated : String := "post.created"

/-- The event that announces a post. -/
def announcing (p : Post) (correlation : Uuid) : Event := ⟨postCreated, correlation, .ofPost p⟩

end Event

/-- The social graph's list of followers. -/
structure Followers where
  users : List String
  deriving DecidableEq, Inhabited

end Timelines
