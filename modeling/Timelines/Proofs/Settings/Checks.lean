import Timelines.Proofs.Except
import Timelines.Settings.Basic

/-! What is true of settings that were checked.

The check of all settings is the checks of the sections one after another (`sections_of_check`), and
a section that was checked has numbers that are allowed. -/
namespace Timelines.Settings

theorem pos_of_positive {key : String} {n m : Nat} (h : positive key n = .ok m) : 0 < m := by
  unfold positive at h
  split at h
  next => cases h
  next hn =>
    cases h
    exact Nat.pos_of_ne_zero hn

/-- Every section of settings that are allowed is. -/
theorem sections_of_check {raw : Raw} {s : Settings} (h : check raw = .ok s) :
    checkLogging raw.logging = .ok s.logging ∧ checkDatabase raw.database = .ok s.database ∧
      checkFanout raw.fanout = .ok s.fanout ∧ checkTimeline raw.timeline = .ok s.timeline ∧
      checkCache raw.cache = .ok s.cache ∧ checkGraph raw.graph = .ok s.graph ∧
      checkEvents raw.events = .ok s.events := by
  unfold check at h
  obtain ⟨logging, hlogging, h⟩ := exists_of_bind h
  obtain ⟨database, hdatabase, h⟩ := exists_of_bind h
  obtain ⟨fanout, hfanout, h⟩ := exists_of_bind h
  obtain ⟨timeline, htimeline, h⟩ := exists_of_bind h
  obtain ⟨cache, hcache, h⟩ := exists_of_bind h
  obtain ⟨graph, hgraph, h⟩ := exists_of_bind h
  obtain ⟨events, hevents, h⟩ := exists_of_bind h
  cases h
  exact ⟨hlogging, hdatabase, hfanout, htimeline, hcache, hgraph, hevents⟩

/-- The cache keeps some users and some posts for each. -/
theorem pos_of_checkCache {raw : RawCache} {s : Cache} (h : checkCache raw = .ok s) :
    0 < s.maxUsers ∧ 0 < s.maxEntries := by
  simp only [checkCache] at h
  split at h
  next => cases h
  next =>
    obtain ⟨users, husers, h⟩ := exists_of_bind h
    obtain ⟨entries, hentries, h⟩ := exists_of_bind h
    cases h
    exact ⟨pos_of_positive husers, pos_of_positive hentries⟩

end Timelines.Settings
