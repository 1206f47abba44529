import Timelines.Database.Failure
import Timelines.Number.Bounded
import Timelines.Number.Word
import Timelines.Text.Case
import Timelines.Text.Quoted
import Timelines.Text.Utf8
import Timelines.Url.Form
import Timelines.Url.Parser

/-! How a database is got at: where it is and whether the way to it must be secured, as a URL says
and, for what the URL leaves out, the variables of a process.

The parameters of a URL come after its parts and count more. -/
namespace Timelines.Database
open Text

/-- How a connection is to be secured. -/
inductive Security
  | disabled
  | allowed
  | preferred
  | required
  /-- The server's certificate must be one that an authority vouches for. -/
  | certified
  /-- And it must be the certificate of the host. -/
  | certifiedHost
  deriving DecidableEq, Inhabited

namespace Security

/-- Reads a kind of security in any letter case. -/
def parse? (s : String) : Option Security :=
  match String.ofList (lower s.toList) with
  | "disable" => some disabled
  | "allow" => some allowed
  | "prefer" => some preferred
  | "require" => some required
  | "verify-ca" => some certified
  | "verify-full" => some certifiedHost
  | _ => none

/-- Without it there is no connection. -/
def demanded : Security → Bool
  | disabled | allowed | preferred => false
  | required | certified | certifiedHost => true

end Security

structure Address where
  host : String
  port : Nat
  deriving DecidableEq, Inhabited

structure Access where
  /-- The folder of a socket, which counts more than any host. -/
  socket : Option String
  host : String
  port : Nat
  security : Security
  deriving DecidableEq, Inhabited

namespace Access

def standard : Access := ⟨none, "localhost", 5432, .preferred⟩

/-- What the variables of a process say. -/
def ofEnvironment (env : List (String × String)) : Access :=
  { socket := none
    host := ((env.lookup "PGHOSTADDR").or (env.lookup "PGHOST")).getD standard.host
    port := ((env.lookup "PGPORT").bind fun s =>
      (Number.Bounded.read (Number.Word.count 16) s).toOption).getD standard.port
    security := ((env.lookup "PGSSLMODE").bind Security.parse?).getD standard.security }

/-- A host, or a folder where the text is a path. -/
def towards (a : Access) (text : String) : Access :=
  if text.startsWith "/" then { a with socket := some text } else { a with host := text }

/-- A number in a parameter. -/
def number (bound : Nat) (s : String) : Except Failure Nat :=
  match Number.Bounded.read bound s with
  | .ok n => .ok n
  | .error e => .error (.configuration e.message)

/-- The address of a host in numbers. -/
def isNumeric (s : String) : Bool :=
  (Url.Host.embedded? s.toList).isSome || (Url.Host.ipv6? s.toList).isSome

/-- What a parameter of the URL changes. -/
def apply (a : Access) : String × String → Except Failure Access
  | ("sslmode", s) | ("ssl-mode", s) =>
    match Security.parse? s with
    | some security => .ok { a with security }
    | none => .error (.configuration (Failure.message (.configuration
        ("unknown value " ++ quoted s ++ " for `ssl_mode`"))))
  | ("statement-cache-capacity", s) => (number (Number.Word.count 64) s).map fun _ => a
  | ("host", s) => .ok (a.towards s)
  | ("hostaddr", s) =>
    if isNumeric s then .ok { a with host := s }
    else .error (.configuration "invalid IP address syntax")
  | ("port", s) => (number (Number.Word.count 16) s).map fun port => { a with port }
  | _ => .ok a

/-- The text of a part of the URL. -/
def decoded (part : String) : Except Failure String :=
  match Utf8.decode (Url.Percent.decode part.toList) with
  | .ok s => .ok s
  | .error e => .error (.configuration e.message)

/-- The host of a URL; one that is a path in percent-encoding is a folder. -/
def withHost (a : Access) (host : String) : Except Failure Access :=
  if host.isEmpty then .ok a
  else if (Url.Percent.decode host.toList).head? = some 0x2F then
    (decoded host).map fun folder => { a with socket := some folder }
  else .ok { a with host }

/-- What a URL says, and the variables where it does not. -/
def ofUrl (environment : Access) (text : String) : Except Failure Access :=
  match Url.parse text with
  | .error e => .error (.configuration e.message)
  | .ok url => do
    let a ← environment.withHost ((url.host.map Url.Host.text).getD "")
    let a := { a with port := url.port.getD a.port }
    let path := String.ofList (url.path.text.toList.dropWhile (· == '/'))
    for part in [url.username, url.password, path] do
      discard (decoded part)
    (Url.Form.pairs (url.query.getD "")).foldlM apply a

/-- The host that a name stands for. Every machine has a name for itself, and the numbers of an
address need not be four. -/
def located (host : List Char) : String :=
  if lower host = "localhost".toList then "127.0.0.1"
  else
    match Url.Host.ipv4? host with
    | some n => Url.Host.ipv4Text n
    | none => String.ofList host

/-- Where the connection goes, unless to a socket. -/
def address? (a : Access) : Option Address :=
  if a.socket.isSome ∨ a.host.startsWith "/" then none
  else some ⟨located (strip (fun c => c == '[' || c == ']') a.host.toList), a.port⟩

end Access
end Timelines.Database
