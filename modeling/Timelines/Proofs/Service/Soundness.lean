import Timelines.Proofs.Cache.Slices
import Timelines.Proofs.Post.Newest
import Timelines.Proofs.Service.Effects

/-! What holds of an engine at all times.

A row of a timeline counts for a slice once its upkeep is over. A slice covers the rows that count,
and so does what a refill has read, as long as its user's version is the one that was told before
the reading (`Pending`): rows come to count by an upkeep only, and that gives the user a new version
(`Onward`). Here are the steps of the reading calls and of the refills, which leave the rows alone
and touch the cache by operations whose slices cover what they should. -/
namespace Timelines.Service
open Cache (Operation)

/-- How many posts a slice shows, if there are so many. -/
def Config.shown (c : Config) : Nat := min c.queryLimit (max 1 c.cacheMaxEntries)

/-- A refill has read what the store has, unless its user's version has changed. -/
structure Pending (c : Config) (w : World) (counts : UserId → Post → Prop) (r : Refill) : Prop where
  le : r.version ≤ w.cache.versions.told r.user
  covers : w.cache.versions.told r.user = r.version →
    Post.Covers c.queryLimit (w.store.timeline r.user) (counts r.user) r.posts

/-- No row counts for a user from now on that did not before, unless the version has changed. -/
structure Onward (w : World) (counts : UserId → Post → Prop) (w' : World)
    (counts' : UserId → Post → Prop) : Prop where
  rows : ∀ u, ∀ p ∈ w.store.timeline u, p ∈ w'.store.timeline u
  told : ∀ u, w.cache.versions.told u ≤ w'.cache.versions.told u
  counts : ∀ u, ∀ p ∈ w'.store.timeline u, counts' u p →
    p ∈ w.store.timeline u ∧ counts u p ∨ w.cache.versions.told u < w'.cache.versions.told u

theorem Pending.onward {c : Config} {w w' : World} {counts counts' : UserId → Post → Prop}
    {r : Refill} (h : Pending c w counts r) (ho : Onward w counts w' counts') :
    Pending c w' counts' r where
  le := Nat.le_trans h.le (ho.told r.user)
  covers := by
    intro ht
    have hle := ho.told r.user
    have hold : w.cache.versions.told r.user = r.version :=
      Nat.le_antisymm (ht ▸ hle) h.le
    refine (h.covers hold).mono (ho.rows r.user) fun p hp hc => ?_
    refine (ho.counts r.user p hp hc).resolve_right fun hlt => ?_
    omega

namespace Engine

/-- The post that a call is at work on. -/
def working (e : Engine) (n : Nat) : Option Post := e.creates[n]?.bind (·.stage.post?)

structure Sound (c : Config) (e : Engine) : Prop where
  store : e.world.store.Sound
  issued : e.world.cache.versions.Issued
  entries : e.world.cache.config.maxEntries = c.cacheMaxEntries
  stages : ∀ call ∈ e.creates, call.stage.Sound c e.world.store
  /-- No two calls are at work on one post. -/
  apart : ∀ i j p, e.working i = some p → e.working j = some p → i = j
  slices : ∀ u slice, e.world.cache.slices.find? u = some slice →
    Post.Covers c.shown (e.world.store.timeline u) (e.settled u) slice.posts
  reads : ∀ call ∈ e.reads, ∀ version, call.stage = .querying (some version) →
    version ≤ e.world.cache.versions.told call.user
  refills : ∀ r ∈ e.refills, r.done = false → Pending c e.world e.settled r

theorem sound_start {c : Config} {store : Store.Memory} (h : store.Sound) (users : Nat)
    (ttl : Option Nat) : (start c store users ttl).Sound c where
  store := h
  issued := Cache.Store.issued_create _
  entries := rfl
  stages := nofun
  apart := nofun
  slices := nofun
  reads := nofun
  refills := nofun

variable {c : Config} {e : Engine}

/-! ### Steps that leave the posts alone -/

/-- The world after an operation on the cache. -/
def operated (w : World) (now : Nat) (o : Operation) : World :=
  { w with cache := w.cache.after now o }

theorem onward_operated (w : World) (counts : UserId → Post → Prop) (now : Nat) (o : Operation)
    (h : w.cache.versions.Issued) : Onward w counts (operated w now o) counts where
  rows := fun _ _ hp => hp
  told := Cache.Store.told_le_after h now o
  counts := fun _ _ hp hc => .inl ⟨hp, hc⟩

/-- An operation on the cache, after which every slice that is new covers its timeline. -/
theorem Sound.operated (h : e.Sound c) (now : Nat) (o : Operation)
    (hs : ∀ u slice, (e.world.cache.after now o).slices.find? u = some slice →
      e.world.cache.slices.find? u = some slice ∨
        Post.Covers c.shown (e.world.store.timeline u) (e.settled u) slice.posts) :
    Sound c { e with world := operated e.world now o } := by
  have ho := onward_operated e.world e.settled now o h.issued
  refine ⟨h.store, Cache.Store.issued_after h.issued now o, ?_, h.stages, h.apart, ?_, ?_, ?_⟩
  · exact (congrArg (·.maxEntries) (Cache.Store.config_after e.world.cache now o)).trans h.entries
  · exact fun u slice hf => (hs u slice hf).elim (h.slices u slice) id
  · exact fun call hm v hv => Nat.le_trans (h.reads call hm v hv) (ho.told call.user)
  · exact fun r hm hd => (h.refills r hm hd).onward ho

/-- A step of a reading call. -/
theorem Sound.reading {w : World} {n : Nat} {call next : Read} {m : Read.Move}
    (h : Sound c { e with world := w })
    (hv : ∀ version, next.stage = .querying (some version) →
      version ≤ w.cache.versions.told next.user)
    (hl : ∀ r, call.launched? m = some r → Pending c w e.settled r) :
    (e.readOn n call m next w).Sound c := by
  refine ⟨h.store, h.issued, h.entries, h.stages, h.apart, h.slices, fun read hr => ?_, ?_⟩
  · rcases List.mem_or_eq_of_mem_set hr with hr | rfl
    · exact h.reads read hr
    · exact hv
  · intro r hr hd
    rcases List.mem_append.mp hr with hr | hr
    · exact h.refills r hr hd
    · exact hl r (Option.mem_toList.mp hr)

/-- What the store gives for a query covers the timeline. -/
theorem covers_query {store : Store.Memory} (hm : store.Sound) {user : UserId} {limit : Nat}
    {posts : List Post} (h : store.query user limit = .ok posts) (counts : Post → Prop) :
    Post.Covers limit (store.timeline user) counts posts := by
  unfold Store.Memory.query Store.Memory.newest at h
  split at h
  next => cases h
  next =>
    cases h
    have := (Post.covers_newestFirst limit counts (hm.once user)).take limit
    rwa [Nat.min_self] at this

theorem sound_reading {w : World} {n : Nat} {call next : Read} {m : Read.Move} (h : e.Sound c)
    (hn : e.reads[n]? = some call) (hs : (Read.machine c).Step call e.world m next w) :
    (e.readOn n call m next w).Sound c := by
  obtain ⟨huser, hc⟩ := Read.course_of_step hs
  have hcall := List.mem_of_getElem? hn
  generalize hb : call.stage = before at hc
  generalize ha : next.stage = after at hc
  cases hc with
  | cached now =>
    have hw := h.operated now (.get call.user) fun u slice hf => .inl (Cache.Store.find?_get hf)
    refine hw.reading (fun version hv => ?_) nofun
    rw [ha] at hv
    unfold Read.cachedStage at hv
    split at hv <;> cases hv
  | notCached error => exact h.reading (fun version hv => by rw [ha] at hv; cases hv) nofun
  | versioned =>
    have hw := h.operated 0 (.version call.user) fun u slice hf => .inl hf
    refine hw.reading (fun version hv => ?_) nofun
    rw [ha] at hv
    cases hv
    rw [huser, Cache.Store.version_fst]
    exact Cache.Versions.told_le_ask ..
  | notVersioned error => exact h.reading (fun version hv => by rw [ha] at hv; cases hv) nofun
  | @queried version posts hq =>
    refine h.reading (fun version hv => ?_) fun r hr => ?_
    · rw [ha] at hv
      unfold Read.queriedStage at hv
      split at hv <;> cases hv
    · cases posts with
      | nil => cases hr
      | cons p posts =>
        cases version with
        | none =>
          simp only [Read.launched?, hb] at hr
          cases hr
        | some version =>
          simp only [Read.launched?, hb] at hr
          cases hr
          exact ⟨h.reads call hcall version hb, fun _ => covers_query h.store hq _⟩
  | notQueried version error => exact h.reading (fun version hv => by rw [ha] at hv; cases hv) nofun
  | waited posts => exact h.reading (fun version hv => by rw [ha] at hv; cases hv) nofun
  | cancelled version => exact h.reading (fun version hv => by rw [ha] at hv; cases hv) nofun

/-! ### Refills -/

theorem entries_eq (h : e.Sound c) : e.world.cache.config.entries = max 1 c.cacheMaxEntries := by
  rw [Cache.Config.entries, h.entries]

theorem sound_refilling {w : World} {n : Nat} {r next : Refill} {m : Refill.Move} (h : e.Sound c)
    (hn : e.refills[n]? = some r) (hs : Refill.machine.Step r e.world m next w) :
    Sound c { e with world := w, refills := e.refills.set n next } := by
  obtain ⟨hdone, rfl, hc⟩ := Refill.course_of_step hs
  have hpending := h.refills r (List.mem_of_getElem? hn) hdone
  have hw : Sound c { e with world := w } := by
    cases hc with
    | stored now =>
      refine h.operated now (.refill r.user r.posts r.version) fun u slice hf => ?_
      refine (Cache.Store.find?_refill hf).imp_right fun hnew => ?_
      obtain ⟨rfl, ht, hposts⟩ := hnew
      have hcovers := hpending.covers ht
      have htake := hcovers.take e.world.cache.config.entries
      rw [entries_eq h] at htake hposts
      rwa [hposts, Post.newestFirst_of_newer hcovers.sorted]
    | notStored error => exact h
    | expired => exact h
  refine ⟨hw.store, hw.issued, hw.entries, hw.stages, hw.apart, hw.slices, hw.reads, ?_⟩
  intro r' hr' hd
  rcases List.mem_or_eq_of_mem_set hr' with hr' | rfl
  · exact hw.refills r' hr' hd
  · cases hd

end Engine
end Timelines.Service
