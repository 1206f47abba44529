import Timelines.Proofs.Service.Counting

/-! What an engine counts, against what happened.

A session is an engine with any number of calls that create posts or read timelines, their refills
and their retries. They share the world and take turns in any order, one step at a time; callers
cancel when they like, and others may change the store. Each call is kept with its history, and
beside them stand all reports and all requests that are over.

The reports of a session are those of its calls and of the work in the background, each of which
counts its share (`Session.Books`). When all is done the shares come to what the calls have
returned: `Session.metrics_agree`. -/
namespace Timelines.Service
open Report

/-- A call that creates a post, whether its caller has cancelled, and its history. -/
structure Creating where
  call : Create
  cancelled : Bool
  turns : List Turn

/-- A call that reads a timeline, whether its caller has cancelled, and its history. -/
structure Reading where
  call : Read
  cancelled : Bool
  turns : List Read.Turn

namespace Creating

def log (c : Config) (k : Creating) : Log :=
  Create.log c k.call.author k.call.content k.turns

def stage (k : Creating) : CreateStage := k.call.stage

/-- The report of the fan-out. -/
def spread? (c : Config) (k : Creating) : Option Spread := (k.log c).report

/-- The followers that the graph named, each once. -/
def followers (c : Config) (k : Creating) : List UserId := (k.log c).followers

/-- The call is broken, and had recorded its post. -/
def jammed (c : Config) (k : Creating) : Bool := k.call.stage.jammed (k.log c)

/-- The history is that of the call. -/
def Kept (c : Config) (k : Creating) : Prop :=
  Create.Watched c k.call.author k.call.content k.turns k.cancelled k.call

end Creating

namespace Reading

/-- The call returned posts. -/
def served (k : Reading) : Bool := k.call.result?.any (·.isOk)

/-- The history is that of the call. -/
def Kept (c : Config) (k : Reading) : Prop :=
  ∃ refills, Read.Watched c k.call.user k.turns k.cancelled k.call refills

end Reading

structure Session where
  world : World
  creates : List Creating
  reads : List Reading
  refills : List Refill
  retries : List Tries
  reports : List Report
  /-- The requests that are over. -/
  answers : List Answer

namespace Session

/-- What the engine has counted, and its cache. -/
def metrics (s : Session) : List Metric := counted s.reports ++ ofTally s.world.cache.tally

/-- A session at its start. -/
def start (w : World) : Session := ⟨w, [], [], [], [], [], []⟩

/-- The session after something was reported, and a request may be over. -/
def noting (s : Session) (w : World) (rs : List Report) (a : Option Answer) : Session :=
  { s with world := w, reports := s.reports ++ rs, answers := s.answers ++ a.toList }

/-- The session after a step of a call that creates a post. -/
def created (c : Config) (s : Session) (n : Nat) (k : Creating) (m : Create.Move)
    (a : Option Answer) (next : Create) (w : World) : Session :=
  { s.noting w (k.call.reports c m) a with
    creates := s.creates.set n ⟨next, k.cancelled, k.turns ++ [⟨k.call, m, s.world, w⟩]⟩
    retries := s.retries ++ ((k.call.launched? c m).map (⟨·, []⟩)).toList }

/-- The session after a step of a call that reads a timeline. -/
def readOn (s : Session) (n : Nat) (k : Reading) (m : Read.Move) (a : Option Answer) (next : Read)
    (w : World) : Session :=
  { s.noting w (k.call.reports m) a with
    reads := s.reads.set n ⟨next, k.cancelled, k.turns ++ [⟨k.call, k.cancelled, m⟩]⟩
    refills := s.refills ++ (k.call.launched? m).toList }

/-- A call begins, its caller cancels, or it makes a step; or a refill or a retry does; or the store
changes for others. -/
inductive Step (c : Config) (s : Session) : Session → Prop
  | create (author : UserId) (content : String) :
      Step c s { s with creates := s.creates ++ [⟨.start author content, false, []⟩] }
  | read (user : UserId) : Step c s { s with reads := s.reads ++ [⟨.start user, false, []⟩] }
  | cancelCreating {n : Nat} {k : Creating} : s.creates[n]? = some k →
      Step c s { s with creates := s.creates.set n { k with cancelled := true } }
  | cancelReading {n : Nat} {k : Reading} : s.reads[n]? = some k →
      Step c s { s with reads := s.reads.set n { k with cancelled := true } }
  | creating {n : Nat} {k : Creating} {m : Create.Move} {a : Option Answer} {next : Create}
      {w : World} : s.creates[n]? = some k → k.call.heeds k.cancelled m →
      (Create.machine c).Exchange k.call s.world m a next w → Step c s (s.created c n k m a next w)
  | reading {n : Nat} {k : Reading} {m : Read.Move} {a : Option Answer} {next : Read} {w : World} :
      s.reads[n]? = some k → k.call.heeds k.cancelled m →
      (Read.machine c).Exchange k.call s.world m a next w → Step c s (s.readOn n k m a next w)
  | refilling {n : Nat} {r next : Refill} {m : Refill.Move} {a : Option Answer} {w : World} :
      s.refills[n]? = some r → Refill.machine.Exchange r s.world m a next w →
      Step c s
        { s.noting w (r.reports c m) (r.answer? m a) with refills := s.refills.set n next }
  | retrying {n : Nat} {t : Tries} {m : Retry.Move} {a : Option Answer} {next : Retry} {w : World} :
      s.retries[n]? = some t → Retry.machine.Exchange t.retry s.world m a next w →
      Step c s
        { s.noting w (t.retry.reports m) a with
          retries := s.retries.set n ⟨next, t.acts ++ t.retry.acts m⟩ }
  | elsewhere (store : Store.Memory) : Step c s { s with world := { s.world with store } }

/-- The sessions there can be, with counters that start at zero. -/
inductive Reachable (c : Config) : Session → Prop
  | start {w : World} : w.cache.tally = ⟨0, 0, 0⟩ → Reachable c (.start w)
  | step {s s' : Session} : Reachable c s → Step c s s' → Reachable c s'

/-- All calls have returned or are broken, and no retry has more to do. -/
structure Settled (s : Session) : Prop where
  creates : ∀ k ∈ s.creates, k.stage.ended
  reads : ∀ k ∈ s.reads, k.call.result?.isSome
  retries : ∀ t ∈ s.retries, t.stopped

/-! ### The books -/

/-- How often the calls and the retries have counted a metric. -/
def share (c : Config) (creates : List Creating) (reads : List Reading) (retries : List Tries)
    (k : Metric) : Nat :=
  (creates.map fun e => times k (Create.reported c e.turns)).sum +
    (reads.map fun e => times k (Read.reported e.turns)).sum +
    (retries.map fun t => times k (Retry.reportsOf t.acts)).sum

/-- What was reported, against the histories and against the requests that are over. -/
structure Books (c : Config) (s : Session) : Prop where
  creates : ∀ e ∈ s.creates, e.Kept c
  reads : ∀ e ∈ s.reads, e.Kept c
  retries : ∀ t ∈ s.retries, t.Paced
  reports : ∀ k, (∀ path, k ≠ .degraded path) →
    times k s.reports = share c s.creates s.reads s.retries k
  degraded : ∀ path,
    times (.degraded path) s.reports = s.answers.countP (Answer.counts (.degraded path))
  lookups : s.world.cache.lookups = s.answers.countP Answer.lookup

theorem forall_set {α : Type} {xs : List α} {n : Nat} {y : α} {p : α → Prop} (h : ∀ z ∈ xs, p z)
    (hy : p y) : ∀ z ∈ xs.set n y, p z := by
  intro z hz
  rcases List.mem_or_eq_of_mem_set hz with hz | rfl
  · exact h z hz
  · exact hy

variable {c : Config} {s s' : Session}

section Shares
variable {creates : List Creating} {reads : List Reading} {retries : List Tries} {n : Nat}
  (k : Metric)

/-- A call counts what it reports. Retries start with nothing counted. -/
theorem share_creating {e : Creating} (he : creates[n]? = some e) (m : Create.Move) (next : Create)
    (w w' : World) (launched : Option Retry) :
    share c (creates.set n ⟨next, e.cancelled, e.turns ++ [⟨e.call, m, w, w'⟩]⟩) reads
        (retries ++ (launched.map (⟨·, []⟩)).toList) k =
      share c creates reads retries k + times k (e.call.reports c m) := by
  have hcreates := sum_set (fun e => times k (Create.reported c e.turns))
    ⟨next, e.cancelled, e.turns ++ [⟨e.call, m, w, w'⟩]⟩ he (Create.times_turn k ..)
  have hlaunched : ((launched.map fun r => (⟨r, []⟩ : Tries)).toList.map
      fun t => times k (Retry.reportsOf t.acts)).sum = 0 := by
    cases launched <;> rfl
  simp only [share, hcreates, List.map_append, List.sum_append, hlaunched]
  omega

theorem share_reading {e : Reading} (he : reads[n]? = some e) (m : Read.Move) (next : Read) :
    share c creates (reads.set n ⟨next, e.cancelled, e.turns ++ [⟨e.call, e.cancelled, m⟩]⟩)
        retries k =
      share c creates reads retries k + times k (e.call.reports m) := by
  have hreads := sum_set (fun e => times k (Read.reported e.turns))
    ⟨next, e.cancelled, e.turns ++ [⟨e.call, e.cancelled, m⟩]⟩ he (Read.times_turn k ..)
  simp only [share, hreads]
  omega

theorem share_retrying {t : Tries} (ht : retries[n]? = some t) (m : Retry.Move) (next : Retry) :
    share c creates reads (retries.set n ⟨next, t.acts ++ t.retry.acts m⟩) k =
      share c creates reads retries k + times k (t.retry.reports m) := by
  have hretries := sum_set (fun t => times k (Retry.reportsOf t.acts))
    ⟨next, t.acts ++ t.retry.acts m⟩ ht (Tries.times_turn k t m)
  simp only [share, hretries]
  omega

end Shares

/-- The books after something was reported, and a request may be over. -/
theorem Books.noting (h : Books c s) {w : World} {rs : List Report} {a : Option Answer}
    {creates : List Creating} {reads : List Reading} {refills : List Refill} {retries : List Tries}
    (hcreates : ∀ e ∈ creates, e.Kept c) (hreads : ∀ e ∈ reads, e.Kept c)
    (hretries : ∀ t ∈ retries, t.Paced)
    (hreports : ∀ k, (∀ path, k ≠ .degraded path) →
      share c creates reads retries k = share c s.creates s.reads s.retries k + times k rs)
    (hdegraded : ∀ path,
      times (.degraded path) rs = a.toList.countP (Answer.counts (.degraded path)))
    (hlookups : w.cache.lookups = s.world.cache.lookups + a.toList.countP Answer.lookup) :
    Books c { s.noting w rs a with creates, reads, refills, retries } where
  creates := hcreates
  reads := hreads
  retries := hretries
  reports := by
    intro k hk
    show times k (s.reports ++ rs) = _
    rw [times_append, h.reports k hk]
    exact (hreports k hk).symm
  degraded := by
    intro path
    show times _ (s.reports ++ rs) = (s.answers ++ a.toList).countP _
    rw [times_append, List.countP_append, h.degraded, hdegraded]
  lookups := by
    show w.cache.lookups = (s.answers ++ a.toList).countP _
    rw [hlookups, List.countP_append, h.lookups]

theorem books_start {w : World} (hw : w.cache.tally = ⟨0, 0, 0⟩) : Books c (start w) where
  creates := nofun
  reads := nofun
  retries := nofun
  reports := fun _ _ => rfl
  degraded := fun _ => rfl
  lookups := by
    show w.cache.tally.hits + w.cache.tally.misses = 0
    simp only [hw]

theorem books_of_step (h : Books c s) (hs : Step c s s') : Books c s' := by
  cases hs with
  | create author content =>
    refine ⟨List.forall_mem_append.mpr ⟨h.creates, ?_⟩, h.reads, h.retries, fun k hk => ?_,
      h.degraded, h.lookups⟩
    · exact List.forall_mem_singleton.mpr .start
    · rw [h.reports k hk]
      simp [share, Create.reported]
  | read user =>
    refine ⟨h.creates, List.forall_mem_append.mpr ⟨h.reads, ?_⟩, h.retries, fun k hk => ?_,
      h.degraded, h.lookups⟩
    · exact List.forall_mem_singleton.mpr ⟨_, .start⟩
    · rw [h.reports k hk]
      simp [share, Read.reported]
  | @cancelCreating n e he =>
    have hkept := h.creates e (List.mem_of_getElem? he)
    refine ⟨forall_set h.creates hkept.cancel, h.reads, h.retries, fun k hk => ?_, h.degraded,
      h.lookups⟩
    have hsame := sum_set (fun e => times k (Create.reported c e.turns))
      { e with cancelled := true } he (Nat.add_zero _).symm
    rw [h.reports k hk]
    simp only [share, hsame, Nat.add_zero]
  | @cancelReading n e he =>
    obtain ⟨refills, hkept⟩ := h.reads e (List.mem_of_getElem? he)
    refine ⟨h.creates, forall_set h.reads ⟨refills, hkept.cancel⟩, h.retries, fun k hk => ?_,
      h.degraded, h.lookups⟩
    have hsame := sum_set (fun e => times k (Read.reported e.turns))
      { e with cancelled := true } he (Nat.add_zero _).symm
    rw [h.reports k hk]
    simp only [share, hsame, Nat.add_zero]
  | @creating n e m a next w he hheeds hx =>
    obtain ⟨hauthor, hcontent, -⟩ := Create.course_of_step hx.step
    refine h.noting (forall_set h.creates ?_) h.reads (List.forall_mem_append.mpr ⟨h.retries, ?_⟩)
      (fun k _ => share_creating k he ..) (Create.degraded_of_exchange hx)
      (World.lookups_of_exchange hx)
    · show Create.Watched c next.author next.content _ _ next
      rw [hauthor, hcontent]
      exact (h.creates e (List.mem_of_getElem? he)).turn hheeds hx.step
    · intro t ht
      obtain ⟨r, hr, rfl⟩ := Option.map_eq_some_iff.mp (Option.mem_toList.mp ht)
      exact Tries.paced_of_launched hr
  | @reading n e m a next w he hheeds hx =>
    refine h.noting h.creates (forall_set h.reads ?_) h.retries (fun k _ => share_reading k he ..)
      (Read.degraded_of_exchange hx) (World.lookups_of_exchange hx)
    obtain ⟨refills, hr⟩ := h.reads e (List.mem_of_getElem? he)
    show ∃ refills, Read.Watched c next.user _ _ next refills
    rw [(Read.course_of_step hx.step).1]
    exact ⟨_, hr.turn hheeds hx.step?⟩
  | @refilling n r next m a w hr hx =>
    refine h.noting h.creates h.reads h.retries (fun k hk => ?_)
      (fun path => Refill.times_of_exchange c hx _) ?_
    · rw [Refill.times_of_exchange c hx,
        List.countP_eq_zero.mpr fun a _ => by simp [Answer.counts_eq_false hk]]
      rfl
    · rw [Refill.lookups_answer hx]
      exact World.lookups_of_exchange hx
  | @retrying n t m a next w ht hx =>
    have hpaced := h.retries t (List.mem_of_getElem? ht)
    exact h.noting h.creates h.reads (forall_set h.retries (hpaced.step hx.step?))
      (fun k _ => share_retrying k ht ..) (Retry.degraded_of_exchange hx)
      (World.lookups_of_exchange hx)
  | elsewhere store => exact ⟨h.creates, h.reads, h.retries, h.reports, h.degraded, h.lookups⟩

theorem books_of_reachable (h : Reachable c s) : Books c s := by
  induction h with
  | start hw => exact books_start hw
  | step _ hs ih => exact books_of_step ih hs

/-! ### When all is done -/

section Sums
variable {α : Type} (xs : List α)

theorem sum_toNat (p : α → Bool) : (xs.map fun x => (p x).toNat).sum = xs.countP p := by
  induction xs with
  | nil => rfl
  | cons x xs ih =>
    rw [List.map_cons, List.sum_cons, ih, List.countP_cons, Nat.add_comm]
    cases p x <;> rfl

theorem sum_filterMap {β : Type} (g : α → Option β) (f : β → Nat) :
    ((xs.filterMap g).map f).sum = (xs.map fun x => ((g x).map f).getD 0).sum := by
  induction xs with
  | nil => rfl
  | cons x xs ih =>
    rw [List.map_cons, List.sum_cons, ← ih]
    cases hx : g x with
    | none => simp [hx]
    | some y => simp [hx]

end Sums

/-- The fan-outs' reports. -/
def spreads (c : Config) (s : Session) : List Spread := s.creates.filterMap (·.spread? c)

theorem count_metrics (s : Session) (k : Metric) :
    s.metrics.count k = times k s.reports + (ofTally s.world.cache.tally).count k :=
  List.count_append

/-- What the cache does not count. -/
theorem count_metrics_eq (s : Session) (k : Metric)
    (hk : k ∉ [.cacheHits, .cacheMisses, .cacheEvictions]) :
    s.metrics.count k = times k s.reports := by
  simp only [List.mem_cons, List.not_mem_nil, or_false, not_or] at hk
  obtain ⟨hhit, hmiss, heviction⟩ := hk
  rw [count_metrics]
  simp [ofTally, List.count_replicate, Ne.symm hhit, Ne.symm hmiss, Ne.symm heviction]

section Settled
variable (hw : 0 < c.bounds.workers) (h : Books c s) (hs : s.Settled)
include h

include hw in
/-- The reports, side paths aside, count the shares of the calls and of the retries. -/
theorem times_reports (k : Metric) (hk : ∀ path, k ≠ .degraded path) :
    times k s.reports =
      (s.creates.map fun e => Create.share (e.log c) e.stage k).sum +
        (s.reads.map fun e => Read.share (Read.log c e.turns) k).sum +
        (s.retries.map fun t => times k (Retry.reportsOf t.acts)).sum := by
  have hcreates : s.creates.map (fun e => times k (Create.reported c e.turns)) =
      s.creates.map fun e => Create.share (e.log c) e.stage k :=
    List.map_congr_left fun e he => Create.times_of_run hw (h.creates e he).run hk
  have hreads : s.reads.map (fun e => times k (Read.reported e.turns)) =
      s.reads.map fun e => Read.share (Read.log c e.turns) k := by
    refine List.map_congr_left fun e he => ?_
    obtain ⟨refills, hr⟩ := h.reads e he
    exact Read.times_of_watched hr hk
  rw [h.reports k hk, share, hcreates, hreads]

/-- Retries count nothing but what was not published. -/
theorem times_of_retries {k : Metric} (hk : k ≠ .publishFailures) :
    (s.retries.map fun t => times k (Retry.reportsOf t.acts)).sum = 0 := by
  refine List.sum_eq_zero fun n hn => ?_
  obtain ⟨t, ht, rfl⟩ := List.mem_map.mp hn
  rw [(h.retries t ht).counted, if_neg fun h => hk h.1.symm]

include hw

/-- What reads do not count, and retries do not, calls that create posts count by themselves. -/
theorem times_of_creates (k : Metric) (hk : ∀ path, k ≠ .degraded path)
    (hread : ∀ l, Read.share l k = 0) (hretry : k ≠ .publishFailures) :
    times k s.reports = (s.creates.map fun e => Create.share (e.log c) e.stage k).sum := by
  rw [times_reports hw h k hk, times_of_retries h hretry]
  simp [hread]

theorem times_of_reads (fromCache : Bool) :
    times (.timelineReads fromCache) s.reports =
      (s.reads.map fun e => Read.share (Read.log c e.turns) (.timelineReads fromCache)).sum := by
  rw [times_reports hw h (.timelineReads fromCache) nofun,
    times_of_retries (k := .timelineReads fromCache) h nofun]
  simp [Create.share]

/-- A call that broke with its post did so for the queue to its followers. -/
theorem overfull_of_jammed {e : Creating} (he : e ∈ s.creates) (hj : e.jammed c) :
    Fanout.maxQueue < c.bounds.queue ∧ e.followers c ≠ [] := by
  have hm := Create.manned_of_run hw (h.creates e he).run
  unfold Creating.jammed CreateStage.jammed at hj
  split at hj
  next hstage =>
    rw [hstage] at hm
    have hsaved : (e.log c).saved ≠ [] := by simpa using hj
    exact hm hsaved
  next => cases hj

theorem account_of_mem {e : Creating} (he : e ∈ s.creates) :
    Create.Account c e.call.author e.call.content (e.log c) e.stage :=
  Create.account_of_run hw (h.creates e he).run

/-- The cache counts the lookups. -/
theorem count_lookups :
    s.metrics.count .cacheHits + s.metrics.count .cacheMisses =
      s.answers.countP Answer.lookup := by
  have hhits := times_of_creates hw h .cacheHits nofun (fun _ => rfl) nofun
  have hmisses := times_of_creates hw h .cacheMisses nofun (fun _ => rfl) nofun
  rw [count_metrics, count_metrics, hhits, hmisses, ← h.lookups]
  simp [Create.share, ofTally, List.count_replicate, Cache.Store.lookups]

include hs

theorem reckoned_of_mem {e : Creating} (he : e ∈ s.creates) : Create.Reckoned (e.log c) e.stage :=
  Create.reckoned_of_account (account_of_mem hw h he) (hs.creates e he)

theorem count_posts :
    times .postsCreated s.reports =
      s.creates.countP (·.stage.told) + s.creates.countP (·.jammed c) := by
  have hsaved : s.creates.map (fun e => Create.share (e.log c) e.stage .postsCreated) =
      s.creates.map fun e => e.stage.told.toNat + (e.jammed c).toNat :=
    List.map_congr_left fun e he => (reckoned_of_mem hw h hs he).saved
  rw [times_of_creates hw h .postsCreated nofun (fun _ => rfl) nofun, hsaved, List.sum_map_add,
    sum_toNat, sum_toNat]

theorem count_writes :
    times (.fanoutWrites true) s.reports = ((s.spreads c).map (·.delivered.length)).sum ∧
      times (.fanoutWrites false) s.reports = ((s.spreads c).map (·.failed)).sum := by
  constructor
  · rw [times_of_creates hw h (.fanoutWrites true) nofun (fun _ => rfl) nofun, spreads,
      sum_filterMap]
    exact congrArg _ (List.map_congr_left fun e he => (reckoned_of_mem hw h hs he).reached)
  · rw [times_of_creates hw h (.fanoutWrites false) nofun (fun _ => rfl) nofun, spreads,
      sum_filterMap]
    exact congrArg _ (List.map_congr_left fun e he => (reckoned_of_mem hw h hs he).missed)

theorem sum_dispatched :
    ((s.spreads c).map (·.delivered.length)).sum + ((s.spreads c).map (·.failed)).sum =
      ((s.spreads c).map (·.dispatched)).sum := by
  rw [← List.sum_map_add]
  refine congrArg _ (List.map_congr_left fun spread hspread => ?_)
  obtain ⟨e, he, hreport⟩ := List.mem_filterMap.mp hspread
  exact ((reckoned_of_mem hw h hs he).dispatched spread hreport).symm

theorem count_time :
    times .fanoutTime s.reports =
      s.creates.countP fun e => e.stage.told && !(e.followers c).isEmpty := by
  rw [times_of_creates hw h .fanoutTime nofun (fun _ => rfl) nofun, ← sum_toNat]
  exact congrArg _ (List.map_congr_left fun e he =>
    congrArg Bool.toNat (reckoned_of_mem hw h hs he).timed)

theorem count_reads :
    times (.timelineReads true) s.reports + times (.timelineReads false) s.reports =
      s.reads.countP (·.served) := by
  rw [times_of_reads hw h, times_of_reads hw h, ← List.sum_map_add, ← sum_toNat]
  refine congrArg _ (List.map_congr_left fun e he => ?_)
  obtain ⟨refills, hr⟩ := h.reads e he
  obtain ⟨r, hresult⟩ := Option.isSome_iff_exists.mp (hs.reads e he)
  rw [Reading.served, hresult]
  exact Read.served_of_told (Read.followed_of_watched hr).told hresult

theorem count_unpublished :
    times .publishFailures s.reports =
      s.creates.countP (·.stage.unannounced) + s.retries.countP Tries.usedUp := by
  have hretries : s.retries.map (fun t => times .publishFailures (Retry.reportsOf t.acts)) =
      s.retries.map fun t => t.usedUp.toNat :=
    List.map_congr_left fun t ht => (h.retries t ht).times_of_stopped (hs.retries t ht)
  rw [times_reports hw h .publishFailures nofun, hretries, sum_toNat]
  simp [Read.share, Create.share, sum_toNat]

end Settled

/-- A first post, recorded in an empty store. -/
theorem reachable_recorded (c : Config) :
    let draft : Draft := ⟨⟨"alice"⟩, "hello", default⟩
    let post := draft.toPost ⟨.ofNat 1⟩
    ∃ turns, Reachable c
      ⟨⟨⟨[post], []⟩, .create .standard⟩,
        [⟨⟨⟨"alice"⟩, "hello", .resolving post⟩, false, turns⟩], [], [], [],
        [.count .postsCreated], [⟨.userExists ⟨"alice"⟩, .done⟩, ⟨.save draft, .done⟩]⟩ := by
  intro draft post
  have hdated : Create.next? c ⟨⟨"alice"⟩, "hello", .dating⟩ (.dated (some default)) =
      some (.recording draft) := by
    have hc : checkContent "hello" = .ok () := by
      rw [checkContent, if_neg (by decide), if_neg (by decide)]
    simp only [Create.next?, Draft.make, hc]
    rfl
  have started : Reachable c _ := .start (w := ⟨.empty, .create .standard⟩) rfl
  have created := started.step (.create ⟨"alice"⟩ "hello")
  have known := created.step (.creating (n := 0) rfl rfl (@Machine.Exchange.answered _ _ _ _ _
    ⟨.userExists ⟨"alice"⟩, .lookedUp⟩ 0 (.ok true) _ _ (List.mem_cons_self ..) rfl rfl))
  have dated := known.step (.creating (n := 0) (m := .dated (some default)) rfl rfl
    (.own rfl (congrArg (Option.map _) hdated)))
  have recorded := dated.step (.creating (n := 0) rfl rfl (@Machine.Exchange.answered _ _ _ _ _
    ⟨.save draft, .recorded⟩ 0 (.ok ⟨.ofNat 1⟩) _ _ (List.mem_cons_self ..) rfl rfl))
  exact ⟨_, recorded⟩

/-- **Metrics agree with what happened.** When all is done, the posts counted are those that calls
told of and those of calls that broke for a queue to the followers that cannot be. The writes
counted are those of the fan-outs' reports, and a fan-out's time is counted once for each post told
of that has followers. The reads counted are those that returned posts. What was not published is
what calls failed for and what was attempted as often as it may be. A side path is counted as often
as a request of it failed or took too long, and each slice looked up is a hit or a miss. -/
theorem metrics_agree (hw : 0 < c.bounds.workers) (hr : Reachable c s) (hs : s.Settled) :
    let n (m : Metric) := s.metrics.count m
    (n .postsCreated = s.creates.countP (·.stage.told) + s.creates.countP (·.jammed c) ∧
      ∀ e ∈ s.creates, e.jammed c → Fanout.maxQueue < c.bounds.queue ∧ e.followers c ≠ []) ∧
    n (.fanoutWrites true) = ((s.spreads c).map (·.delivered.length)).sum ∧
    n (.fanoutWrites false) = ((s.spreads c).map (·.failed)).sum ∧
    n (.fanoutWrites true) + n (.fanoutWrites false) = ((s.spreads c).map (·.dispatched)).sum ∧
    n .fanoutTime = s.creates.countP (fun e => e.stage.told && !(e.followers c).isEmpty) ∧
    n (.timelineReads true) + n (.timelineReads false) = s.reads.countP (·.served) ∧
    n .publishFailures =
      s.creates.countP (·.stage.unannounced) + s.retries.countP Tries.usedUp ∧
    (∀ path, n (.degraded path) = s.answers.countP fun a => a.lapse? = some path) ∧
    n .cacheHits + n .cacheMisses = s.answers.countP Answer.lookup := by
  have h := books_of_reachable hr
  obtain ⟨hok, hfail⟩ := count_writes hw h hs
  intro n
  have written : n (.fanoutWrites true) = _ := (s.count_metrics_eq _ (by simp)).trans hok
  have missed : n (.fanoutWrites false) = _ := (s.count_metrics_eq _ (by simp)).trans hfail
  refine ⟨⟨?_, fun e he hj => ?_⟩, written, missed, ?_, ?_, ?_, ?_, fun path => ?_,
    count_lookups hw h⟩
  · exact (s.count_metrics_eq _ (by simp)).trans (count_posts hw h hs)
  · exact overfull_of_jammed hw h he hj
  · rw [written, missed, sum_dispatched hw h hs]
  · exact (s.count_metrics_eq _ (by simp)).trans (count_time hw h hs)
  · rw [← count_reads hw h hs, ← s.count_metrics_eq _ (by simp), ← s.count_metrics_eq _ (by simp)]
  · exact (s.count_metrics_eq _ (by simp)).trans (count_unpublished hw h hs)
  · refine ((s.count_metrics_eq _ (by simp)).trans (h.degraded path)).trans ?_
    exact List.countP_congr fun a _ => by simp [Answer.counts]

/-- The graph fails, the event is refused for good, and a reader finds the cache without a
version. -/
theorem metrics_agree_of_outage :
    let c : Config := ⟨50, 100, 2000, 1000, .invalidate, .bestEffort 1 200, ⟨50, 100⟩⟩
    ∃ s, Reachable c s ∧ s.Settled ∧
      let n (m : Metric) := s.metrics.count m
      n .postsCreated = 1 ∧ n (.timelineReads true) + n (.timelineReads false) = 1 ∧
        n .publishFailures = 1 ∧ n (.degraded .followers) = 1 ∧ n (.degraded .cacheVersion) = 1 ∧
        n .cacheHits + n .cacheMisses = 1 := by
  intro c
  let draft : Draft := ⟨⟨"alice"⟩, "hello", default⟩
  let event : Event := .announcing (draft.toPost ⟨.ofNat 1⟩) (.ofNat 2)
  have hquery (w : World) (hnone : w.store.timeline ⟨"bob"⟩ = []) :
      w.answer? 0 (.query ⟨"bob"⟩ 50) (.ok []) = some w := by
    simp [World.answer?, Store.Memory.query, Store.Memory.newest, hnone, Post.newestFirst]
  obtain ⟨turns, recorded⟩ := reachable_recorded c
  have unresolved := recorded.step (.creating (n := 0) rfl rfl (@Machine.Exchange.answered _ _ _ _ _
    ⟨.followers ⟨"alice"⟩, .resolved⟩ 0 (.error (.transport "refused")) _ _
    (List.mem_cons_self ..) rfl rfl))
  have named := unresolved.step
    (.creating (n := 0) (m := .named (.ofNat 2)) rfl rfl (.own rfl rfl))
  have exhausted := named.step (.retrying (n := 0) rfl (@Machine.Exchange.answered _ _ _ _ _
    ⟨.publish event, .published⟩ 0 (.error (.rejected 503)) _ _ (List.mem_cons_self ..) rfl rfl))
  have reading := exhausted.step (.read ⟨"bob"⟩)
  have missed := reading.step (.reading (n := 0) rfl rfl (@Machine.Exchange.answered _ _ _ _ _
    ⟨.cacheGet ⟨"bob"⟩, .cached⟩ 0 (.ok none) _ _ (List.mem_cons_self ..) rfl rfl))
  have notTold := missed.step (.reading (n := 0) rfl rfl (@Machine.Exchange.answered _ _ _ _ _
    ⟨.cacheVersion ⟨"bob"⟩, .versioned⟩ 0 (.error (.unavailable "down")) _ _
    (List.mem_cons_self ..) rfl rfl))
  have done := notTold.step (.reading (n := 0) rfl rfl (@Machine.Exchange.answered _ _ _ _ _
    ⟨.query ⟨"bob"⟩ 50, .queried⟩ 0 (.ok []) _ _ (List.mem_cons_self ..) (hquery _ rfl) rfl))
  obtain ⟨s, reachable, turns, turns', acts, hcreates, hreads, hretries, hanswers, hacts⟩ :
      ∃ s, Reachable c s ∧ ∃ turns turns' acts,
        s.creates = [⟨⟨⟨"alice"⟩, "hello", .finished (.ok ⟨.ofNat 1⟩)⟩, false, turns⟩] ∧
        s.reads = [⟨⟨⟨"bob"⟩, .finished (.ok [])⟩, false, turns'⟩] ∧
        s.retries = [⟨⟨event, 1, 200, .exhausted⟩, acts⟩] ∧
        s.answers = [⟨.userExists ⟨"alice"⟩, .done⟩, ⟨.save draft, .done⟩,
          ⟨.followers ⟨"alice"⟩, .failed⟩, ⟨.publish event, .failed⟩,
          ⟨.cacheGet ⟨"bob"⟩, .done⟩, ⟨.cacheVersion ⟨"bob"⟩, .failed⟩,
          ⟨.query ⟨"bob"⟩ 50, .done⟩] ∧
        Retry.attempts acts = 1 := ⟨_, done, _, _, _, rfl, rfl, rfl, rfl, rfl⟩
  have settled : s.Settled := by
    constructor
    · rw [hcreates]
      exact List.forall_mem_singleton.mpr rfl
    · rw [hreads]
      exact List.forall_mem_singleton.mpr rfl
    · rw [hretries]
      exact List.forall_mem_singleton.mpr (.inl (.inr rfl))
  obtain ⟨⟨posts, -⟩, -, -, -, -, served, unpublished, degraded, looked⟩ :=
    metrics_agree (by decide) reachable settled
  rw [hcreates] at posts unpublished
  rw [hreads] at served
  rw [hanswers] at degraded looked
  refine ⟨s, reachable, settled, posts, served, unpublished.trans ?_, degraded .followers,
    degraded .cacheVersion, looked⟩
  simp [hretries, Tries.usedUp, hacts, Creating.stage, CreateStage.unannounced]

/-- It is not so that the posts counted are those that calls told of: where the queue to the
followers cannot be, a call breaks after its post was counted. -/
theorem posts_not_always_told :
    ¬∀ (c : Config) (s : Session), 0 < c.bounds.workers → 0 < c.bounds.queue → Reachable c s →
      s.Settled → s.metrics.count .postsCreated = s.creates.countP (·.stage.told) := by
  intro hall
  let c : Config := ⟨50, 100, 2000, 1000, .invalidate, .strict, ⟨50, Fanout.maxQueue + 1⟩⟩
  obtain ⟨turns, recorded⟩ := reachable_recorded c
  have jammed := recorded.step (.creating (n := 0) rfl rfl (@Machine.Exchange.answered _ _ _ _ _
    ⟨.followers ⟨"alice"⟩, .resolved⟩ 0 (.ok [⟨"bob"⟩]) _ _ (List.mem_cons_self ..) rfl rfl))
  have htold := hall c _ (by decide) (by decide) jammed
    ⟨List.forall_mem_singleton.mpr rfl, nofun, nofun⟩
  cases htold

end Session
end Timelines.Service
