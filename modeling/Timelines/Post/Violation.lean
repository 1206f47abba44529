/-! The rules of posts and users, as the ways to break them. -/
namespace Timelines

inductive Violation
  | emptyContent
  | contentTooLong (length max : Nat)
  | emptyUserId
  deriving DecidableEq, Inhabited

def Violation.message : Violation → String
  | emptyContent => "post content is empty"
  | contentTooLong length max =>
    s!"post content is {length} characters, the limit is {max}"
  | emptyUserId => "user id is empty"

end Timelines
