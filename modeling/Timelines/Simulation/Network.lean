import Timelines.Cache.Store
import Timelines.Database.Posts
import Timelines.EventLog
import Timelines.Graph
import Timelines.Simulation.Basic
import Timelines.Simulation.Database
import Timelines.Simulation.Web
import Timelines.Webhook

/-! The peers of the program: a cache of its own, the database, the social graph on the web, and a
publisher that posts to the web or sends on a channel in the process. -/
namespace Timelines.Simulation
open Service Report

inductive Publisher
  | channel (log : EventLog)
  | webhook (url : Url)
  deriving Inhabited

structure Network where
  web : Web
  proxies : Http.Proxies
  database : Database
  cache : Cache.Store
  /-- The base URL of the social graph, and how long it is waited for. -/
  graph : Url
  graphTimeout : Nat
  publisher : Publisher
  publishTimeout : Nat
  /-- Requests that reached a web server. -/
  requests : List Http.Request
  /-- What was reported on the way. -/
  reports : List Report
  /-- The program has been interrupted. -/
  interrupted : Bool
  /-- How many ids were made up. -/
  ids : Nat
  /-- The program cannot go on. -/
  broken : Bool
  deriving Inhabited

namespace Network

/-- A network before the program has set anything up in it. -/
def start (web : Web) (database : Database) : Network :=
  { (default : Network) with web, proxies := .none, database, cache := .create .standard }

/-- A network where nothing can be reached. -/
def empty : Network := start .empty .absent

/-- The request that a peer makes on the web. -/
def webRequest? (n : Network) : Request → Option Http.Request
  | .userExists u => some (Graph.lookup n.graph u)
  | .followers u => some (Graph.followersOf n.graph u)
  | .publish e =>
    match n.publisher with
    | .webhook url => some (Webhook.delivery url e)
    | .channel _ => none
  | _ => none

def timeout (n : Network) : Request → Nat
  | .publish _ => n.publishTimeout
  | _ => n.graphTimeout

/-- What a peer remembers of a request: what is still to be asked on the web, and what comes of it.
-/
abbrev Ticket := Http.Exchange

/-- A request of the engine reaches its peer. The first interrupt cancels the call, and what is
asked after it waits for that. -/
def receive (_now : Nat) (r : Request) (n : Network) : Arrival Ticket × Network :=
  match n.webRequest? r with
  | none => (⟨some 0, none, ⟨[], .error ⟨.refused, n.graph⟩⟩⟩, n)
  | some request =>
    let e := Http.exchange n.web.server n.proxies request
    let delay := if e.reply matches .error ⟨.timedOut, _⟩ then n.timeout r else 0
    match e.sent.span fun q => !n.web.interrupts q, n.interrupted with
    | (before, q :: after), false =>
      (⟨some (max delay 1), some 0, ⟨after, e.reply⟩⟩,
        { n with
          requests := n.requests ++ before ++ [q]
          reports := n.reports ++ [.note .interrupted]
          interrupted := true })
    | _, _ => (⟨some delay, none, ⟨[], e.reply⟩⟩, { n with requests := n.requests ++ e.sent })

/-- Sends an event on the channel, or takes the answer of the web to it. -/
def publish (n : Network) (e : Event) (reply : Http.Reply) : Except PublishError Unit × Network :=
  match n.publisher with
  | .channel log => (.ok (), { n with publisher := .channel (log.publish e) })
  | .webhook _ =>
    match Webhook.delivered reply with
    | .ok () => (.ok (), { n with reports := n.reports ++ [.note (.eventDelivered e.post.id)] })
    | .error f => (.error f, n)

/-- Asks the database. -/
def ask (n : Network) (work : Database → α × Database) : α × Network :=
  let (a, database) := work n.database
  (a, { n with database })

/-- Asks the database on behalf of the store, which may break the program. -/
def consult (n : Network) (work : Database → Timelines.Database.Outcome α × Database) :
    Except StoreError α × Network :=
  match n.ask work with
  | (some r, n) => (r, n)
  | (none, n) => (.error .timeout, { n with broken := true })

/-- A peer answers. -/
def reply (now : Nat) (r : Request) (ticket : Ticket) (n : Network) : r.Reply × Network :=
  let n := { n with requests := n.requests ++ ticket.sent }
  match r with
  | .userExists _ => (Graph.found ticket.reply, n)
  | .followers u =>
    match Graph.listed ticket.reply with
    | .ok ids => (.ok (Graph.accepted ids), { n with reports := n.reports ++ Graph.skipped u ids })
    | .error f => (.error f, n)
  | .save draft =>
    { n with ids := n.ids + 1 }.consult
      (Timelines.Database.save Database.server (.random n.ids) draft)
  | .write owner p => n.consult (Timelines.Database.write Database.server owner p)
  | .query owner limit => n.consult (Timelines.Database.newest Database.server owner limit)
  | .publish e => n.publish e ticket.reply
  | .cacheGet u =>
    let (r, cache) := n.cache.get now u
    (.ok r, { n with cache })
  | .cacheVersion u =>
    let (v, cache) := n.cache.version u
    (.ok v, { n with cache })
  | .cacheRefill u posts version =>
    let (ok, cache) := n.cache.refill now u posts version
    (.ok ok, { n with cache })
  | .cachePush u p maxLength => (.ok (), { n with cache := n.cache.push now u p maxLength })
  | .cacheInvalidate u => (.ok (), { n with cache := n.cache.invalidate u })

def peers : Peers Network Ticket := ⟨receive, reply⟩

/-- Makes one request at the time zero and waits for the answer. -/
def visit (r : Request) (n : Network) : r.Reply × Network :=
  let (arrival, n) := n.receive 0 r
  n.reply 0 r arrival.ticket

/-- Lets the log of the channel catch up. -/
def logEvents (n : Network) : Network :=
  match n.publisher with
  | .channel log =>
    let (notices, log) := log.catchUp
    { n with publisher := .channel log, reports := n.reports ++ notices.map .note }
  | .webhook _ => n

end Network
end Timelines.Simulation
