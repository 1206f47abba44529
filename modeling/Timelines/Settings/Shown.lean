import Timelines.CommandLine
import Timelines.Json.Value
import Timelines.Settings.Basic

/-! Settings in JSON. -/
namespace Timelines
open Json

def Service.Maintenance.toJson : Service.Maintenance → Value
  | .invalidate => .string "invalidate"
  | .push => .string "push"

def Service.PublishPolicy.toJson : Service.PublishPolicy → Value
  | .strict => .string "strict"
  | .bestEffort attempts backoff =>
    .object [("max_attempts", .nat attempts), ("backoff_ms", .nat backoff)]

def Service.Config.toJson (c : Service.Config) : Value :=
  .object [("query_limit", .nat c.queryLimit), ("cache_max_entries", .nat c.cacheMaxEntries),
    ("refill_timeout_ms", .nat c.refillTimeout), ("refill_guard_ms", .nat c.refillGuard),
    ("maintenance", c.maintenance.toJson), ("publish", c.publish.toJson),
    ("workers", .nat c.bounds.workers), ("queue_capacity", .nat c.bounds.queue)]

def CommandLine.Overrides.toJson (o : CommandLine.Overrides) : Json.Value :=
  .object [("database_url", .optional o.databaseUrl), ("log_level", .optional o.logLevel),
    ("log_json", .optionalBool o.logJson), ("social_graph_url", .optional o.graphUrl),
    ("events_webhook_url", .optional o.webhookUrl),
    ("fanout_workers", .optionalNat o.fanoutWorkers),
    ("timeline_query_limit", .optionalNat o.queryLimit)]

/-- Settings by their sections. -/
def Settings.members (s : Settings) : List (String × Value) :=
  [("logging", .object [("level", .string s.logging.level.text), ("json", .bool s.logging.json)]),
    ("database", .object [("url", .optional s.database.url),
      ("max_connections", .nat s.database.maxConnections)]),
    ("fanout", .object [("workers", .nat s.fanout.workers),
      ("queue_capacity", .nat s.fanout.queue)]),
    ("timeline", .object [("query_limit", .nat s.timeline.queryLimit),
      ("refill_timeout_ms", .nat s.timeline.refillTimeout),
      ("refill_guard_ms", .nat s.timeline.refillGuard),
      ("maintenance", s.timeline.maintenance.toJson), ("publish", s.timeline.publish.toJson)]),
    ("cache", .object [("max_users", .nat s.cache.maxUsers),
      ("max_entries", .nat s.cache.maxEntries), ("ttl_s", .optionalNat s.cache.ttlSeconds)]),
    ("social_graph", .object [("base_url", .string s.graph.baseUrl.text),
      ("timeout_ms", .nat s.graph.timeout)]),
    ("events", .object [("webhook_url", .optional (s.events.webhookUrl.map Url.text)),
      ("timeout_ms", .nat s.events.timeout),
      ("broadcast_capacity", .nat s.events.broadcastCapacity)])]

end Timelines
