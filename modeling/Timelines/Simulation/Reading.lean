import Timelines.Json.Value
import Timelines.Post.Wire
import Timelines.Simulation.Network

/-! Scripts of servers, as they are written in JSON. What is left out has a value of its own; what
is of another kind than it should be is taken for left out. -/
namespace Timelines.Simulation
open Json

/-- Whether a flag is set. -/
def flag (v : Value) (key : String) : Bool := v.get key matches .bool true

def textAt (v : Value) (key : String) : String := (v.get key).text?.getD ""

def naturalAt (v : Value) (key : String) (fallback : Nat) : Nat :=
  ((v.get key).int?.map Int.toNat).getD fallback

/-- The members of an object; other values have none. -/
def membersOf : Value → List (String × Value)
  | .object members => members
  | _ => []

def itemsOf : Value → List Value
  | .array items => items
  | _ => []

/-- A text with the places of the servers in it: where `http` and `pg` stand in braces. -/
def located (web database text : String) : String :=
  (text.replace "\x7bhttp\x7d" web).replace "\x7bpg\x7d" database

/-! ### The web -/

def Conduct.ofJson (v : Value) : Conduct :=
  let status := naturalAt v "status" 200
  let body := textAt v "body"
  let headers := (membersOf (v.get "headers")).filterMap fun (name, value) =>
    value.text?.map (name, ·)
  if flag v "hang" then .keepSilent
  else if flag v "close" then .hangUp
  else .respond status headers body (min (naturalAt v "truncate" 0) body.utf8ByteSize)

/-- A server at an authority, with routes by their targets. -/
def Web.ofJson (authority : String) (routes : Value) : Web :=
  ⟨authority, (membersOf routes).map fun (target, v) => (target, ⟨.ofJson v, flag v "interrupt"⟩)⟩

/-! ### The database -/

def rowOfJson (v : Value) : Timelines.Database.Row where
  post := ((v.get "post_id").text?.bind Uuid.parse?).getD (.ofNat 0)
  author := textAt v "author_id"
  content := textAt v "content"
  createdAt :=
    (((v.get "created_at").text?.bind Moment.parse?).map Timelines.Database.micros).getD 0

def appliedOfJson? (v : Value) : Option Timelines.Database.Applied :=
  (v.get "version").int?.map (⟨·, textAt v "checksum"⟩)

def Answer.ofJson (v : Value) : Answer :=
  match v.get "error" with
  | .object e => .failure (textAt (.object e) "code") (textAt (.object e) "message")
  | _ =>
    let rows := itemsOf (v.get "rows")
    .result ((v.get "id").text?.bind Uuid.parse?) (rows.map rowOfJson)
      (rows.filterMap appliedOfJson?)

/-- A database at an address, with answers by the kind of query. -/
def Database.ofJson (address : Timelines.Database.Address) (answers : Value) : Database :=
  let answers := (membersOf answers).map fun (kind, v) => (kind, (itemsOf v).map .ofJson)
  ⟨some address, .standard, answers, []⟩

end Timelines.Simulation
