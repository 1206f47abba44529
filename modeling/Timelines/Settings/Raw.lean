import Timelines.Settings.Read

/-! Settings as they are given: every field optional and nothing checked but its kind. -/
namespace Timelines.Settings

structure RawLogging where
  level : Option String
  json : Option Bool
  deriving DecidableEq, Inhabited

structure RawDatabase where
  url : Option String
  maxConnections : Option Nat
  deriving DecidableEq, Inhabited

structure RawFanout where
  workers : Option Nat
  queueCapacity : Option Nat
  deriving DecidableEq, Inhabited

structure RawTimeline where
  queryLimit : Option Nat
  refillTimeout : Option Nat
  refillGuard : Option Nat
  maintenance : Option String
  publishPolicy : Option String
  publishMaxAttempts : Option Nat
  publishBackoff : Option Nat
  deriving DecidableEq, Inhabited

structure RawCache where
  maxUsers : Option Nat
  maxEntries : Option Nat
  ttlSeconds : Option Nat
  deriving DecidableEq, Inhabited

structure RawGraph where
  baseUrl : Option String
  timeout : Option Nat
  deriving DecidableEq, Inhabited

structure RawEvents where
  webhookUrl : Option String
  timeout : Option Nat
  broadcastCapacity : Option Nat
  deriving DecidableEq, Inhabited

structure Raw where
  logging : RawLogging
  database : RawDatabase
  fanout : RawFanout
  timeline : RawTimeline
  cache : RawCache
  graph : RawGraph
  events : RawEvents
  deriving DecidableEq, Inhabited

namespace Raw
open Node

/-- No field is given. -/
def empty : Raw where
  logging := ⟨none, none⟩
  database := ⟨none, none⟩
  fanout := ⟨none, none⟩
  timeline := ⟨none, none, none, none, none, none, none⟩
  cache := ⟨none, none, none⟩
  graph := ⟨none, none⟩
  events := ⟨none, none, none⟩

def loggingFields : List (Field RawLogging) :=
  [.optional "level" readText fun v s => { s with level := v },
    .optional "json" readBool fun v s => { s with json := v }]

def databaseFields : List (Field RawDatabase) :=
  [.optional "url" readText fun v s => { s with url := v },
    .optional "max_connections" readNat32 fun v s => { s with maxConnections := v }]

def fanoutFields : List (Field RawFanout) :=
  [.optional "workers" readNat fun v s => { s with workers := v },
    .optional "queue_capacity" readNat fun v s => { s with queueCapacity := v }]

def timelineFields : List (Field RawTimeline) :=
  [.optional "query_limit" readNat fun v s => { s with queryLimit := v },
    .optional "cache_refill_timeout_ms" readNat fun v s => { s with refillTimeout := v },
    .optional "cache_refill_guard_ms" readNat fun v s => { s with refillGuard := v },
    .optional "cache_maintenance" readText fun v s => { s with maintenance := v },
    .optional "publish_policy" readText fun v s => { s with publishPolicy := v },
    .optional "publish_max_attempts" readNat32 fun v s => { s with publishMaxAttempts := v },
    .optional "publish_backoff_ms" readNat fun v s => { s with publishBackoff := v }]

def cacheFields : List (Field RawCache) :=
  [.optional "max_users" readNat fun v s => { s with maxUsers := v },
    .optional "max_entries" readNat fun v s => { s with maxEntries := v },
    .optional "ttl_seconds" readNat fun v s => { s with ttlSeconds := v }]

def graphFields : List (Field RawGraph) :=
  [.optional "base_url" readText fun v s => { s with baseUrl := v },
    .optional "timeout_ms" readNat fun v s => { s with timeout := v }]

def eventsFields : List (Field RawEvents) :=
  [.optional "webhook_url" readText fun v s => { s with webhookUrl := v },
    .optional "timeout_ms" readNat fun v s => { s with timeout := v },
    .optional "broadcast_capacity" readNat fun v s => { s with broadcastCapacity := v }]

def sections : List (Field Raw) :=
  [.part "logging" "RawLoggingSettings" loggingFields empty.logging
      fun v s => { s with logging := v },
    .part "database" "RawDatabaseSettings" databaseFields empty.database
      fun v s => { s with database := v },
    .part "fanout" "RawFanoutSettings" fanoutFields empty.fanout
      fun v s => { s with fanout := v },
    .part "timeline" "RawTimelineSettings" timelineFields empty.timeline
      fun v s => { s with timeline := v },
    .part "cache" "RawCacheSettings" cacheFields empty.cache
      fun v s => { s with cache := v },
    .part "social_graph" "RawSocialGraphSettings" graphFields empty.graph
      fun v s => { s with graph := v },
    .part "events" "RawEventsSettings" eventsFields empty.events
      fun v s => { s with events := v }]

/-- Reads settings from all layers laid over one another. -/
def read (root : Node) : Reading Raw := readEntries sections root.entries empty

end Raw
end Timelines.Settings
