import Timelines.Cache.Config
import Timelines.Service.Config
import Timelines.Settings.Raw
import Timelines.Text.Blank
import Timelines.Url.Parser

/-! Settings that were checked, and the checks.

Sections are checked in the order in which they stand here, and the first value that is not allowed
is the failure. Times are in milliseconds, but for the age limit of the cache, which is in seconds.
-/
namespace Timelines
open Settings

namespace Settings

/-- How much of the log is written. -/
inductive Verbosity
  | off
  | error
  | warn
  | info
  | debug
  | trace
  deriving DecidableEq, Inhabited

def Verbosity.text : Verbosity → String
  | off => "off"
  | error => "error"
  | warn => "warn"
  | info => "info"
  | debug => "debug"
  | trace => "trace"

/-- A verbosity by its name in any case or by its number; the empty name is `error`. -/
def Verbosity.parse? (s : String) : Option Verbosity :=
  match Text.Decimal.word? s with
  | some n => [off, error, warn, info, debug, trace][n]?
  | none =>
    if s.isEmpty then some error
    else [off, error, warn, info, debug, trace].find? fun v =>
      v.text == String.ofList (Text.lower s.toList)

structure Logging where
  level : Verbosity
  json : Bool
  deriving DecidableEq, Inhabited

structure Database where
  url : Option String
  maxConnections : Nat
  deriving DecidableEq, Inhabited

structure Timeline where
  queryLimit : Nat
  refillTimeout : Nat
  refillGuard : Nat
  maintenance : Service.Maintenance
  publish : Service.PublishPolicy
  deriving DecidableEq, Inhabited

structure Cache where
  maxUsers : Nat
  maxEntries : Nat
  ttlSeconds : Option Nat
  deriving DecidableEq, Inhabited

structure Graph where
  baseUrl : Url
  timeout : Nat
  deriving DecidableEq, Inhabited

structure Events where
  /-- Without one, events go to the in-process channel. -/
  webhookUrl : Option Url
  timeout : Nat
  broadcastCapacity : Nat
  deriving DecidableEq, Inhabited

end Settings

structure Settings where
  logging : Settings.Logging
  database : Settings.Database
  fanout : Service.Bounds
  timeline : Settings.Timeline
  cache : Settings.Cache
  graph : Settings.Graph
  events : Settings.Events
  deriving DecidableEq, Inhabited

namespace Settings

abbrev Check := Except Failure

def invalid (key reason : String) : Check α := .error (.invalid key reason)

/-- A number that must not be zero. -/
def positive (key : String) (n : Nat) : Check Nat :=
  if n = 0 then invalid key "must be greater than zero" else .ok n

/-- A URL of the web; blanks around it do not count. -/
def webUrl (key value : String) : Check Url :=
  match Url.parse (Text.trim value) with
  | .error e => invalid key ("invalid url `" ++ value ++ "`: " ++ e.message)
  | .ok url =>
    if url.scheme == "http" || url.scheme == "https" then .ok url
    else invalid key ("unsupported scheme `" ++ url.scheme ++ "`")

def checkLevel (value : Option String) : Check Verbosity :=
  match value with
  | none => .ok .info
  | some s =>
    match Verbosity.parse? s with
    | some v => .ok v
    | none => invalid "logging.level"
        ("failed to parse: error parsing level filter: expected one of \"off\", \"error\", " ++
          "\"warn\", \"info\", \"debug\", \"trace\", or a number 0-5")

def checkLogging (raw : RawLogging) : Check Logging := do
  return ⟨← checkLevel raw.level, raw.json.getD false⟩

def checkDatabase (raw : RawDatabase) : Check Database := do
  let url := (raw.url.map Text.trim).filter fun s => !s.isEmpty
  return ⟨url, ← positive "database.max_connections" (raw.maxConnections.getD 8)⟩

def checkFanout (raw : RawFanout) : Check Service.Bounds := do
  return ⟨← positive "fanout.workers" (raw.workers.getD 50),
    ← positive "fanout.queue_capacity" (raw.queueCapacity.getD 100)⟩

def checkMaintenance (value : Option String) : Check Service.Maintenance :=
  match value.map Text.trim with
  | none | some "invalidate" => .ok .invalidate
  | some "push" => .ok .push
  | some other => invalid "timeline.cache_maintenance"
      ("expected `invalidate` or `push`, got `" ++ other ++ "`")

def checkPublish (raw : RawTimeline) : Check Service.PublishPolicy :=
  match raw.publishPolicy.map Text.trim with
  | none | some "strict" => .ok .strict
  | some "best_effort" => do
    return .bestEffort
      (← positive "timeline.publish_max_attempts" (raw.publishMaxAttempts.getD 3))
      (raw.publishBackoff.getD 200)
  | some other => invalid "timeline.publish_policy"
      ("expected `strict` or `best_effort`, got `" ++ other ++ "`")

def checkTimeline (raw : RawTimeline) : Check Timeline := do
  let queryLimit ← positive "timeline.query_limit" (raw.queryLimit.getD 50)
  let refillTimeout ←
    positive "timeline.cache_refill_timeout_ms" (raw.refillTimeout.getD 2000)
  let refillGuard := raw.refillGuard.getD 1000
  if refillGuard > refillTimeout then
    invalid "timeline.cache_refill_guard_ms" "must not exceed timeline.cache_refill_timeout_ms"
  let maintenance ← checkMaintenance raw.maintenance
  return ⟨queryLimit, refillTimeout, refillGuard, maintenance, ← checkPublish raw⟩

def checkCache (raw : RawCache) : Check Cache := do
  if raw.ttlSeconds = some 0 then
    invalid "cache.ttl_seconds" "must be greater than zero; omit it to disable expiry"
  return ⟨← positive "cache.max_users" (raw.maxUsers.getD 10000),
    ← positive "cache.max_entries" (raw.maxEntries.getD 100), raw.ttlSeconds⟩

def checkGraph (raw : RawGraph) : Check Graph := do
  return ⟨← webUrl "social_graph.base_url" (raw.baseUrl.getD "http://127.0.0.1:8081"),
    ← positive "social_graph.timeout_ms" (raw.timeout.getD 2000)⟩

def checkEvents (raw : RawEvents) : Check Events := do
  let webhookUrl : Option Url ←
    match raw.webhookUrl.filter fun s => !Text.blank s with
    | some s => some <$> webUrl "events.webhook_url" s
    | none => pure none
  return ⟨webhookUrl, ← positive "events.timeout_ms" (raw.timeout.getD 2000),
    ← positive "events.broadcast_capacity" (raw.broadcastCapacity.getD 1024)⟩

/-- Settings that are allowed, with the values of the fields that were left out. -/
def check (raw : Raw) : Check Settings := do
  return ⟨← checkLogging raw.logging, ← checkDatabase raw.database, ← checkFanout raw.fanout,
    ← checkTimeline raw.timeline, ← checkCache raw.cache, ← checkGraph raw.graph,
    ← checkEvents raw.events⟩

/-- The settings of the engine. -/
def serviceConfig (s : Settings) : Service.Config where
  queryLimit := s.timeline.queryLimit
  cacheMaxEntries := s.cache.maxEntries
  refillTimeout := s.timeline.refillTimeout
  refillGuard := s.timeline.refillGuard
  maintenance := s.timeline.maintenance
  publish := s.timeline.publish
  bounds := s.fanout

/-- The bounds of the cache. -/
def cacheConfig (s : Settings) : Timelines.Cache.Config where
  maxUsers := s.cache.maxUsers
  maxEntries := s.cache.maxEntries
  ttl := s.cache.ttlSeconds.map (· * 1000)

end Settings
end Timelines
