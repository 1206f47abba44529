import Timelines.Url.Host

/-! URLs.

A path is a list of segments as they are written; the path `/` has one empty segment. A URL that
cannot be a base has a text in its place. -/
namespace Timelines

inductive Url.Path
  | segments (parts : List String)
  | plain (text : String)
  deriving DecidableEq, Inhabited

structure Url where
  scheme : String
  username : String
  password : String
  host : Option Url.Host
  port : Option Nat
  path : Url.Path
  query : Option String
  fragment : Option String
  deriving DecidableEq, Inhabited

namespace Url

/-- The port that a scheme has without saying so. -/
def defaultPort? : String → Option Nat
  | "http" | "ws" => some 80
  | "https" | "wss" => some 443
  | "ftp" => some 21
  | _ => none

/-- Schemes whose URLs always have a host and a path. -/
def specialScheme (scheme : String) : Bool := (defaultPort? scheme).isSome || scheme == "file"

def special (u : Url) : Bool := specialScheme u.scheme

def Path.text : Path → String
  | segments parts => String.join (parts.map ("/" ++ ·))
  | plain t => t

/-- Whether other URLs can be told relative to this one. -/
def canBeBase (u : Url) : Bool :=
  match u.path with
  | .segments _ => true
  | .plain _ => false

def userinfoText (u : Url) : String :=
  if u.username.isEmpty && u.password.isEmpty then ""
  else u.username ++ (if u.password.isEmpty then "" else ":" ++ u.password) ++ "@"

def hostText (u : Url) : String :=
  match u.host with
  | some h => "//" ++ u.userinfoText ++ h.text ++
      match u.port with
      | some p => ":" ++ toString p
      | none => ""
  | none => ""

def queryText (u : Url) : String :=
  match u.query with
  | some q => "?" ++ q
  | none => ""

def text (u : Url) : String :=
  u.scheme ++ ":" ++ u.hostText ++ u.path.text ++ u.queryText ++
    match u.fragment with
    | some f => "#" ++ f
    | none => ""

/-- What a request for the URL asks its host for. -/
def target (u : Url) : String := u.path.text ++ u.queryText

/-- The host and the port that a request goes to. -/
def authority (u : Url) : String :=
  (match u.host with
    | some h => h.text
    | none => "") ++ ":" ++
  toString ((u.port.or (defaultPort? u.scheme)).getD 0)

end Url
end Timelines
