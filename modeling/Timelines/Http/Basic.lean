import Timelines.Program.Name
import Timelines.Text.Case
import Timelines.Url.Basic

/-! Requests to web servers and their responses. -/
namespace Timelines.Http

inductive Method
  | get
  | post
  deriving DecidableEq, Inhabited

def Method.text : Method → String
  | get => "GET"
  | post => "POST"

/-- Headers in the order in which they are sent. -/
abbrev Headers := List (String × String)

/-- The value of a header; its name may be in any case. -/
def Headers.value? (headers : Headers) (name : String) : Option String :=
  (headers.find? fun h => Text.lowerText h.1 == name).map (·.2)

structure Request where
  method : Method
  url : Url
  headers : Headers
  body : Option String
  /-- The authority of the proxy that the request is sent to. -/
  proxy : Option String
  deriving DecidableEq, Inhabited

/-- Where a request is sent: to the host of its URL, or to a proxy. -/
def Request.place (r : Request) : String := r.proxy.getD r.url.authority

/-- What a request asks for: a path and a query, or of a proxy the whole URL. -/
def Request.target (r : Request) : String :=
  if r.proxy.isSome then { r.url with username := "", password := "", fragment := none }.text
  else r.url.target

structure Response where
  status : Nat
  headers : Headers
  /-- Nothing where the connection ended before the body did. -/
  body : Option String
  deriving DecidableEq, Inhabited

/-- Why a request has no response. -/
inductive Cause
  /-- No request can be made for the URL. -/
  | unsupported
  | refused
  | closed
  | timedOut
  | tooManyRedirects
  deriving DecidableEq, Inhabited

/-- A request that has no response, and the URL that was asked for first. -/
structure Failure where
  cause : Cause
  url : Url
  deriving DecidableEq, Inhabited

def Cause.message : Cause → String
  | unsupported => "builder error"
  | refused | closed | timedOut => "error sending request"
  | tooManyRedirects => "error following redirect"

/-- The message names the URL, but not the user that it may name. -/
def Failure.message (f : Failure) : String :=
  f.cause.message ++ " for url (" ++ { f.url with username := "", password := "" }.text ++ ")"

/-- What is said of a body that is not what was asked for. -/
def unreadableBody : String := "error decoding response body"

/-- What comes of a request. -/
abbrev Reply := Except Failure Response

/-- What a server does with a request. -/
abbrev Conclusion := Except Cause Response

/-- Whether the server did what it was asked. -/
def Response.succeeded (r : Response) : Bool := 200 ≤ r.status && r.status < 300

/-- How the program introduces itself. -/
def agent : String := Program.name ++ "/" ++ Program.version

def get (url : Url) : Request := ⟨.get, url, [("user-agent", agent)], none, none⟩

/-- A request that brings a JSON text along. -/
def postJson (url : Url) (headers : Headers) (text : String) : Request :=
  ⟨.post, url, ("user-agent", agent) :: ("content-type", "application/json") :: headers, some text,
    none⟩

end Timelines.Http
