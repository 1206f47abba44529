/-! What the program counts. -/
namespace Timelines.Report

/-- A part of the work that may fail without the call failing. -/
inductive SidePath
  | followers
  | cacheRead
  | cacheVersion
  | cacheRefill
  | cachePush
  | cacheInvalidate
  deriving DecidableEq, Inhabited

def SidePath.text : SidePath → String
  | followers => "followers"
  | cacheRead => "cache_read"
  | cacheVersion => "cache_generation"
  | cacheRefill => "cache_refill"
  | cachePush => "cache_push"
  | cacheInvalidate => "cache_invalidate"

inductive Metric
  | postsCreated
  | fanoutWrites (ok : Bool)
  /-- A sample of how long a fan-out took. -/
  | fanoutTime
  | timelineReads (cached : Bool)
  | cacheHits
  | cacheMisses
  | cacheEvictions
  | publishFailures
  | degraded (path : SidePath)
  deriving DecidableEq, Inhabited

namespace Metric

def name : Metric → String
  | postsCreated => "murmur_posts_created_total"
  | fanoutWrites _ => "murmur_fanout_writes_total"
  | fanoutTime => "murmur_fanout_ms"
  | timelineReads _ => "murmur_timeline_reads_total"
  | cacheHits => "murmur_timeline_cache_hit_total"
  | cacheMisses => "murmur_timeline_cache_miss_total"
  | cacheEvictions => "murmur_timeline_cache_evict_total"
  | publishFailures => "murmur_publish_failures_total"
  | degraded _ => "murmur_degraded_total"

/-- The label that splits a metric, and its value. -/
def label? : Metric → Option (String × String)
  | fanoutWrites ok => some ("result", if ok then "ok" else "error")
  | timelineReads cached => some ("source", if cached then "cache" else "store")
  | degraded path => some ("path", path.text)
  | _ => none

/-- The name with the label behind it. -/
def series (m : Metric) : String :=
  match m.label? with
  | some (key, value) => m.name ++ "\x7b" ++ key ++ "=" ++ value ++ "\x7d"
  | none => m.name

/-- What a metric says about itself. -/
structure Description where
  metric : Metric
  text : String

/-- All metrics; of those split by a label each is described once. -/
def descriptions : List Description :=
  [⟨postsCreated, "Posts durably recorded in the global store."⟩,
    ⟨fanoutWrites true, "Timeline entry writes attempted during fan-out, labelled by result."⟩,
    ⟨fanoutTime, "Time from first dispatch to the last fan-out worker finishing."⟩,
    ⟨timelineReads true, "Timeline reads served, labelled by source (cache or store)."⟩,
    ⟨cacheHits, "Timeline cache lookups that found a live slice."⟩,
    ⟨cacheMisses, "Timeline cache lookups that found nothing or an expired slice."⟩,
    ⟨cacheEvictions, "Timeline slices evicted due to the user capacity bound."⟩,
    ⟨publishFailures, "Post-created events that could not be delivered."⟩,
    ⟨degraded .followers, "Best-effort side paths that failed, labelled by path."⟩]

end Metric
end Timelines.Report
