import Timelines.Http.Basic
import Timelines.Http.Proxy

/-! Following redirects.

A response that says where else to ask is followed, ten times at most. After 301, 302 and 303 a
plain request without a body is made; after 307 and 308 the same request is made again. A response
that does not say where, or names a place for which no request can be made, is taken as it is. -/
namespace Timelines.Http

/-- What becomes of the requests that are made; a server that cannot be reached gives nothing. -/
abbrev Server := Request → Option Conclusion

/-- The requests that reached a server, and what came of the last. -/
structure Exchange where
  sent : List Request
  reply : Reply
  deriving Inhabited

/-- Headers that tell about a body. -/
def bodyHeaders : List String :=
  ["content-type", "content-length", "content-encoding", "transfer-encoding"]

/-- The URL that a response leads to. -/
def Request.place? (r : Request) (response : Response) : Option Url := do
  let url ← (r.url.join (← response.headers.value? "location")).toOption
  if url.requestable then some url else none

/-- The request that a response leads to. -/
def Request.next? (r : Request) (response : Response) : Option Request :=
  match r.place? response with
  | none => none
  | some url =>
    if [301, 302, 303].contains response.status then
      some ⟨.get, url, r.headers.filter fun h => !bodyHeaders.contains h.1, none, none⟩
    else if [307, 308].contains response.status then some { r with url }
    else none

/-- Makes a request and follows at most `redirects` redirects. What goes wrong is told of the URL
`asked`, or of the last one if there were too many redirects. -/
def follow (server : Server) (proxies : Proxies) (asked : Url) (r : Request) (redirects : Nat) :
    Exchange :=
  let r := { r with proxy := proxies.proxy? r.url }
  let fail (sent : List Request) (cause : Cause) : Exchange := ⟨sent, .error ⟨cause, asked⟩⟩
  if r.url.scheme = "https" then fail [] .refused
  else if r.url.scheme ≠ "http" ∨ !r.url.requestable then fail [] .unsupported
  else
    match server r with
    | none => fail [] .refused
    | some (.error cause) => fail [r] cause
    | some (.ok response) =>
      match r.next? response, redirects with
      | none, _ => ⟨[r], .ok response⟩
      | some _, 0 => ⟨[r], .error ⟨.tooManyRedirects, r.url⟩⟩
      | some next, redirects + 1 =>
        let rest := follow server proxies asked next redirects
        ⟨r :: rest.sent, rest.reply⟩
termination_by structural redirects

/-- Makes a request. -/
def exchange (server : Server) (proxies : Proxies) (r : Request) : Exchange :=
  follow server proxies r.url r 10

/-- One request, and one for each redirect. -/
theorem length_sent_follow_le (server : Server) (proxies : Proxies) (asked : Url) (r : Request)
    (redirects : Nat) : (follow server proxies asked r redirects).sent.length ≤ redirects + 1 := by
  induction redirects generalizing r with
  | zero => grind [follow]
  | succ redirects ih => grind [follow]

end Timelines.Http
