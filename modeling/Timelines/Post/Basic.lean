import Timelines.Post.Ids
import Timelines.Time.Rfc3339

/-! Posts, and drafts of posts that have no id yet.

A draft's content has between 1 and 280 characters, counted as Unicode scalar values. A recorded
post is not checked again. -/
namespace Timelines

/-- The longest content. -/
def maxPostLength : Nat := 280

/-- The rule on content. -/
def checkContent (content : String) : Except Violation Unit :=
  if content.length = 0 then .error .emptyContent
  else if content.length > maxPostLength then
    .error (.contentTooLong content.length maxPostLength)
  else .ok ()

/-- What is to be recorded. -/
structure Draft where
  author : UserId
  content : String
  createdAt : Moment
  deriving DecidableEq, Inhabited

structure Post where
  id : PostId
  author : UserId
  content : String
  createdAt : Moment
  deriving DecidableEq, Inhabited

namespace Draft

/-- A draft whose content obeys the rule. -/
def make (author : UserId) (content : String) (createdAt : Moment) : Except Violation Draft := do
  checkContent content
  return ⟨author, content, createdAt⟩

/-- The draft under the id it was recorded with. -/
def toPost (d : Draft) (id : PostId) : Post := ⟨id, d.author, d.content, d.createdAt⟩

end Draft
end Timelines
