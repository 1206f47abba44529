import Timelines.Cache.Store
import Timelines.Report.Notice

/-! Reports taken together: the notices, and what was counted. -/
namespace Timelines.Report

def notices (reports : List Report) : List Notice :=
  reports.filterMap fun
    | .note n => some n
    | .count _ => none

def counted (reports : List Report) : List Metric :=
  reports.filterMap fun
    | .count m => some m
    | .note _ => none

/-- What a cache counted. -/
def ofTally (t : Cache.Tally) : List Metric :=
  List.replicate t.hits .cacheHits ++ List.replicate t.misses .cacheMisses ++
    List.replicate t.evictions .cacheEvictions

/-- How often each series was counted, in the order in which they were first. -/
def totals (metrics : List Metric) : List (String × Nat) :=
  metrics.foldl (fun totals m =>
    match totals.lookup m.series with
    | some n => totals.map fun e => if e.1 == m.series then (m.series, n + 1) else e
    | none => totals ++ [(m.series, 1)]) []

end Timelines.Report
