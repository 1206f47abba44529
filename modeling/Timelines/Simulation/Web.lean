import Timelines.Http.Message
import Timelines.Http.Redirect

/-! A web server that follows a script: what it answers to each target. -/
namespace Timelines.Simulation
open Http

/-- How a request is answered. -/
inductive Conduct
  /-- Announces the length of a body and sends all of it, or all but some bytes at its end. -/
  | respond (status : Nat) (headers : Headers) (body : String) (missing : Nat)
  /-- Nothing comes. -/
  | keepSilent
  | hangUp
  deriving DecidableEq, Inhabited

structure Route where
  conduct : Conduct
  /-- The program is interrupted when it waits for the answer. -/
  interrupts : Bool
  deriving DecidableEq, Inhabited

structure Web where
  /-- The host and the port that the server stands at. -/
  authority : String
  /-- Answers by target; `*` stands for all others. -/
  routes : List (String × Route)
  deriving DecidableEq, Inhabited

/-- The characters of a text that so many bytes have room for. -/
def within (bytes : Nat) : List Char → List Char
  | [] => []
  | c :: cs => if c.utf8Size ≤ bytes then c :: within (bytes - c.utf8Size) cs else []

/-- What is sent behind the line of the status. -/
def wireText (headers : Headers) (body : String) (missing : Nat) : String :=
  let lines := ("content-length", toString body.utf8ByteSize) :: headers
  String.join (lines.map fun h => h.1 ++ ": " ++ h.2 ++ "\r\n") ++ "\r\n" ++
    String.ofList (within (body.utf8ByteSize - missing) body.toList)

def Conduct.conclusion : Conduct → Conclusion
  | respond status headers body missing => understand status (wireText headers body missing)
  | keepSilent => .error .timedOut
  | hangUp => .error .closed

namespace Web

/-- A web without servers. -/
def empty : Web := ⟨"", []⟩

/-- The route of a request that reaches the server. -/
def route (w : Web) (r : Request) : Route :=
  ((w.routes.lookup r.target).or (w.routes.lookup "*")).getD ⟨.respond 404 [] "" 0, false⟩

/-- The name that every machine has for itself means an address. -/
def located (place : String) : String :=
  if place.startsWith "localhost:" then "127.0.0.1:" ++ String.ofList (place.toList.drop 10)
  else place

def server (w : Web) : Server := fun r =>
  if located r.place = w.authority then some (w.route r).conduct.conclusion else none

def interrupts (w : Web) (r : Request) : Bool := (w.route r).interrupts

end Web
end Timelines.Simulation
