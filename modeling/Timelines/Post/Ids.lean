import Timelines.Post.Violation
import Timelines.Text.Blank
import Timelines.Uuid

/-! Names of users and of posts.

A user's id belongs to the social graph and is any text that is not blank, kept as it was given. A
post's id is handed out by the system of record. -/
namespace Timelines

structure UserId where
  text : String
  deriving DecidableEq, Inhabited

namespace UserId

/-- A text from outside as an id. -/
def parse (text : String) : Except Violation UserId :=
  if Text.blank text then .error .emptyUserId else .ok ⟨text⟩

/-- Ids are ordered by their characters. -/
def le (a b : UserId) : Bool := !decide (b.text < a.text)

end UserId

structure PostId where
  uuid : Uuid
  deriving DecidableEq, Inhabited

namespace PostId

def text (id : PostId) : String := id.uuid.text

/-- Ids are ordered by their bytes. -/
def le (a b : PostId) : Bool := a.uuid.toNat ≤ b.uuid.toNat

end PostId

/-- The members of a list in order, each once. -/
def inOrder (le : α → α → Bool) [DecidableEq α] (xs : List α) : List α :=
  (xs.mergeSort le).foldr (fun x rest => if rest.head? = some x then rest else x :: rest) []

end Timelines
