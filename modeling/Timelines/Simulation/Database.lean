import Timelines.Database.Access
import Timelines.Database.Query

/-! A database that follows a script: its answers to each kind of query, one after the other, the
last of them for ever. -/
namespace Timelines.Simulation
open Timelines.Database

/-- An answer; each kind of query takes from it what it asks for. -/
inductive Answer
  | failure (code message : String)
  | result (id : Option Uuid) (rows : List Row) (applied : List Applied)
  deriving DecidableEq, Inhabited

structure Database where
  /-- Where the database is. -/
  address : Option Address
  /-- What a URL that does not say is taken to say. -/
  environment : Access
  answers : List (String × List Answer)
  /-- The queries that were made. -/
  queries : List Query
  deriving Inhabited

namespace Database

/-- No database anywhere. -/
def absent : Database := ⟨none, .standard, [], []⟩

/-- The name that a script has for a kind of query. -/
def kind : Query → String
  | .probe => "health"
  | .insertPost .. => "save"
  | .insertEntry .. => "write"
  | .selectTimeline .. => "query"
  | .lock => "-lock"
  | .selectDirty => "-dirty"
  | .selectApplied => "-applied"
  | .apply _ => "ddl"

/-- The next answer to a kind of query. -/
def take (d : Database) (kind : String) : Option Answer × Database :=
  match d.answers.lookup kind with
  | some (a :: b :: rest) =>
    (some a,
      { d with answers := d.answers.map fun e => if e.1 = kind then (kind, b :: rest) else e })
  | some (a :: _) => (some a, d)
  | _ => (none, d)

/-- What a query gets out of an answer. -/
def result : (q : Query) → Option Uuid → List Row → List Applied → q.Result
  | .insertPost .., id, _, _ => id.getD (.ofNat 0)
  | .selectTimeline .., _, rows, _ => rows
  | .selectDirty, _, _, applied => applied.head?.map (·.version)
  | .selectApplied, _, _, applied => applied
  | .probe, _, _, _ | .insertEntry .., _, _, _ | .lock, _, _, _ | .apply _, _, _, _ => ()

def server : Server Database := fun q d =>
  let (answer, d) := d.take (kind q)
  let d := { d with queries := d.queries ++ [q] }
  match answer with
  | some (.failure _ message) => (.error (.server message), d)
  | some (.result id rows applied) => (.ok (result q id rows applied), d)
  | none => (.ok (result q none [] []), d)

/-! ### Connecting -/

/-- The codes of failures that may pass: too many connections, and not yet ready. -/
def passing : List String := ["53300", "57P03"]

/-- Knocks until the database lets the program in, or fails in a way that will not pass. -/
def knock : List Answer → Except Failure Unit
  | [] => .ok ()
  | .result .. :: _ => .ok ()
  | .failure code message :: rest =>
    if !passing.contains code then .error (.server message)
    else if rest.isEmpty then .error .poolTimedOut
    else knock rest

/-- Connects to the database of a URL. Where there is none, the program waits in vain; the one there
is does not secure connections. -/
def connect (d : Database) (url : String) : Except Failure Unit := do
  let a ← Access.ofUrl d.environment url
  if d.address.isNone ∨ d.address ≠ a.address? then .error .poolTimedOut
  else if a.security.demanded then .error (.insecure "server does not support TLS")
  else knock ((d.answers.lookup "connect").getD [])

end Database
end Timelines.Simulation
