import Timelines.Http.Address
import Timelines.Number.Word
import Timelines.Text.Blank
import Timelines.Url.Parser

/-! Proxies: servers that requests are sent to on their way, with the whole URL for a target.

The environment names a proxy for each scheme, or one for all, and the hosts that are gone to
directly: domains with all below them, addresses, and networks of addresses. -/
namespace Timelines.Http
open Text

/-- Hosts that are gone to directly. -/
inductive Exempt
  | all
  /-- A domain; with a point before it in the text, which makes no difference. -/
  | domain (name : List Char)
  /-- The addresses that agree with one in so many bits from the front. -/
  | network (address : Nat) (bits : Nat)
  deriving DecidableEq, Inhabited

namespace Exempt

/-- An address of four bytes, in decimal and in full. -/
def address? (cs : List Char) : Option Nat := do
  match ← Url.Host.embedded? cs with
  | [a, b] => return 65536 * a + b
  | _ => none

def network? (cs : List Char) : Option Exempt :=
  match splitAll (· == '/') cs with
  | [address] => (address? address).map (.network · 32)
  | [address, bits] => do
    let n ← Decimal.natural? bits
    if n > 32 then none else return .network (← address? address) n
  | _ => none

def ofChars (cs : List Char) : Exempt :=
  match network? cs with
  | some e => e
  | none => if cs = ['*'] then .all else .domain (lower (cs.dropWhile (· == '.')))

/-- The hosts of a list with commas. -/
def list (text : String) : List Exempt :=
  ((splitAll (· == ',') text.toList).map (strip isBlank)).filterMap fun cs =>
    if cs.isEmpty then none else some (ofChars cs)

/-- Whether a host is gone to directly. Addresses are so only through networks. -/
def covers (host : Url.Host) : Exempt → Bool
  | all =>
    match host with
    | .domain _ => true
    | _ => false
  | domain name =>
    match host with
    | .domain d =>
      let cs := lower d.toList
      cs == name || ('.' :: name).isSuffixOf cs
    | _ => false
  | network address bits =>
    match host with
    | .ipv4 n => n / Number.Word.count (32 - bits) == address / Number.Word.count (32 - bits)
    | _ => false

end Exempt

structure Proxies where
  /-- The authority of the proxy for requests without encryption. -/
  plain : Option String
  exempt : List Exempt
  deriving DecidableEq, Inhabited

namespace Proxies

/-- All hosts are gone to directly. -/
def none : Proxies := ⟨.none, []⟩

/-- The authority that a variable names; without a scheme it is one of HTTP. -/
def authority? (text : String) : Option String := do
  let cs := text.toList
  let (bare, rest) ←
    match splitFirst? "://".toList cs with
    | some (scheme, rest) => if lower scheme = "http".toList then some (false, rest) else .none
    | .none => some (true, cs)
  let authority := rest.takeWhile fun c => !(['/', '?', '#'].contains c)
  if !isAuthority authority ∨ (bare ∧ authority.length ≠ rest.length) then .none
  else
    let place := (authority.reverse.takeWhile (· != '@')).reverse
    match Url.parse ("http://" ++ String.ofList place ++ "/") with
    | .ok url => some url.authority
    | .error _ => .none

/-- The first variable that is set. -/
def firstSet (env : List (String × String)) (names : List String) : String :=
  (names.findSome? fun name => env.lookup name).getD ""

/-- The proxies of an environment. A program that serves the web itself has none, for there the
variable of that name is a header of the request. -/
def ofEnvironment (env : List (String × String)) : Proxies :=
  if (env.lookup "REQUEST_METHOD").isSome then none
  else
    { plain := (authority? (firstSet env ["HTTP_PROXY", "http_proxy"])).or
        (authority? (firstSet env ["ALL_PROXY", "all_proxy"]))
      exempt := Exempt.list (firstSet env ["NO_PROXY", "no_proxy"]) }

/-- The authority of the proxy that a request for a URL is sent to. -/
def proxy? (p : Proxies) (u : Url) : Option String :=
  match u.host with
  | some host => if p.exempt.any (·.covers host) then .none else p.plain
  | .none => .none

end Proxies
end Timelines.Http
