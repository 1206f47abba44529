import Timelines.Proofs.Service.Coherence
import Timelines.Proofs.Settings.Checks

/-! Reading a timeline again.

As long as nothing is written to a timeline and all its rows count, reads of it answer with its
newest posts. How many depends on who answers: the store gives as many as it is asked for, and a
slice no more than the cache keeps in one. `reads_agree` says so of any two reads, and that they
give the same if the cache keeps as many posts as the store is asked for.

A `Path` is what an engine goes through from some state on. Rows that count at its start count from
then on (`settled_of_path`), so that a slice which is found shows the start of the timeline
(`take_found`). -/
namespace Timelines.Service
open Store (Memory)

/-! ### Paths -/

namespace Engine

/-- What an engine goes through from a state to another, both of them included. -/
inductive Path (c : Config) (e₀ : Engine) : List Engine → Engine → Prop
  | start : Path c e₀ [e₀] e₀
  | step {es : List Engine} {e e' : Engine} : Path c e₀ es e → Step c e e' →
      Path c e₀ (es ++ [e']) e'

variable {c : Config} {e₀ e e' : Engine} {es : List Engine} {u : UserId}

theorem Path.mem (h : Path c e₀ es e) : e ∈ es := by
  cases h with
  | start => exact List.mem_singleton_self _
  | step _ _ => exact List.mem_append_right _ (List.mem_singleton_self _)

theorem Path.reachable (h : Path c e₀ es e) (h₀ : Reachable c e₀) : Reachable c e := by
  induction h with
  | start => exact h₀
  | step _ hs ih => exact ih.step hs

/-- A reading call is answered. -/
theorem Path.answered (h : Path c e₀ es e) {n : Nat} {call next : Read} {q : Question Read.Move}
    {w : World} (hn : e.reads[n]? = some call) (hq : call.question? c = some q) (now : Nat)
    (reply : q.request.Reply) (hw : e.world.answer? now q.request reply = some w)
    (hnext : call.step? c (q.answered reply) = some next) :
    Path c e₀ (es ++ [e.readOn n call (q.answered reply) next w])
      (e.readOn n call (q.answered reply) next w) :=
  h.step (.reading hn (.answered (Option.mem_toList.mpr hq) hw hnext))

/-! ### Rows that count go on to count -/

/-- Only an upkeep that was under way can fail. -/
theorem awaits_of_lapse? {call : Create} {m : Create.Move} {next : CreateStage} {p : Post}
    {author : UserId} {content : String} {w w' : World}
    (h : Create.Course c author content w call.stage m next w')
    (hl : call.lapse? m = some (u, p)) : call.stage.awaits u p := by
  unfold Create.lapse? at hl
  split at hl
  next v error =>
    split at hl
    next post n spread waiting running hs =>
      cases hl
      rw [hs] at h ⊢
      cases h with
      | notMaintained _ _ _ _ _ hu => exact ⟨rfl, .inr hu⟩
    next => cases hl
  next => cases hl

/-- A post is awaited after a step only if it was before, or if it is new. -/
theorem awaits_of_course {author : UserId} {content : String} {w w' : World} {s s' : CreateStage}
    {m : Create.Move} {p : Post} (hm : w.store.Sound) (hs : s.Sound c w.store)
    (h : Create.Course c author content w s m s' w') (ha : s'.awaits u p) :
    s.awaits u p ∨ ∀ q ∈ w.store.posts, q.id ≠ p.id := by
  refine ((effect_of_course hm hs h).work p (CreateStage.post?_of_awaits ha)).imp_left fun hp => ?_
  cases s with
  | resolving post => exact Option.some.inj hp
  | spreading followers f => exact Option.some.inj hp
  | maintaining post n spread waiting running =>
    cases h with
    | maintain _ _ _ v waiting _ _ =>
      refine ⟨ha.1, ha.2.elim (.inl <| List.mem_cons_of_mem _ ·) fun hv => ?_⟩
      rw [List.mem_append, List.mem_singleton] at hv
      exact hv.symm.imp_left fun hv : u = v => hv ▸ List.mem_cons_self ..
    | maintained _ _ _ _ _ _ | notMaintained _ _ _ _ _ _ =>
      obtain ⟨hpost, hu⟩ := (awaits_upkeepStage ..).mp ha
      exact ⟨hpost, hu.imp_right List.mem_of_mem_erase⟩
  | _ => cases hp

/-- A row that counts goes on to do so. -/
theorem settled_of_step (h : e.Sound c) (hs : Step c e e') {p : Post}
    (hp : p ∈ e.world.store.timeline u) (hc : e.settled u p) : e'.settled u p := by
  cases hs with
  | create author content =>
    refine ⟨fun call hcall => ?_, hc.2⟩
    rcases List.mem_append.mp hcall with hcall | hcall
    · exact hc.1 call hcall
    · rw [List.mem_singleton.mp hcall]
      exact id
  | creating hn hs =>
    obtain ⟨-, -, hcourse⟩ := Create.course_of_step hs
    have hcall := List.mem_of_getElem? hn
    have hnone := hc.1 _ hcall
    refine ⟨fun other hother ha => ?_, fun hl => ?_⟩
    · rcases List.mem_or_eq_of_mem_set hother with hother | rfl
      · exact hc.1 other hother ha
      · rcases awaits_of_course h.store (h.stages _ hcall) hcourse ha with ha | hfresh
        · exact hnone ha
        · exact hfresh p (h.store.recorded u p hp) rfl
    · rcases List.mem_append.mp hl with hl | hl
      · exact hc.2 hl
      · exact hnone (awaits_of_lapse? hcourse (Option.mem_toList.mp hl))
  | _ => exact hc

/-- The rows of a timeline to which nothing is written along a path count at its end, if they did at
its start. -/
theorem settled_of_path (h : Path c e₀ es e) (h₀ : Reachable c e₀) {rows : List Post}
    (hrows : ∀ s ∈ es, s.world.store.timeline u = rows) (hc : ∀ p ∈ rows, e₀.settled u p) :
    ∀ p ∈ rows, e.settled u p := by
  induction h with
  | start => exact hc
  | step hpath hs ih =>
    have hrows' := fun s hs => hrows s (List.mem_append_left _ hs)
    have hsound := sound_of_reachable (hpath.reachable h₀)
    intro p hp
    refine settled_of_step hsound hs ?_ (ih hrows' p hp)
    rwa [hrows' _ hpath.mem]

/-! ### What a slice shows -/

/-- A step leaves the cache as it is, or is an operation on it. -/
theorem operated_of_step (hs : Step c e e') :
    e'.world.cache = e.world.cache ∨ ∃ now o, e'.world.cache = e.world.cache.after now o := by
  cases hs with
  | create author content => exact .inl rfl
  | read user => exact .inl rfl
  | creating hn hs =>
    obtain ⟨-, -, hc⟩ := Create.course_of_step hs
    exact operated_of_course hc
  | @reading n call next m w hn hs =>
    obtain ⟨-, hc⟩ := Read.course_of_step hs
    generalize call.stage = before, next.stage = after at hc
    cases hc with
    | cached now => exact .inr ⟨now, .get call.user, rfl⟩
    | versioned => exact .inr ⟨0, .version call.user, rfl⟩
    | _ => exact .inl rfl
  | @refilling n r next m w hn hs =>
    obtain ⟨-, -, hc⟩ := Refill.course_of_step hs
    cases hc with
    | stored now => exact .inr ⟨now, .refill r.user r.posts r.version, rfl⟩
    | _ => exact .inl rfl

theorem bounded_of_reachable (h : Reachable c e) : e.world.cache.Bounded := by
  induction h with
  | start users ttl _ => exact Cache.Store.bounded_create _
  | step _ hs ih =>
    rcases operated_of_step hs with hcache | ⟨now, o, hcache⟩
    · exact hcache ▸ ih
    · exact hcache ▸ Cache.Store.bounded_after ih now o

/-- A slice that is found shows the newest posts of the timeline whose rows all count, as many as a
slice shows. -/
theorem take_found (h : Reachable c e) {now : Nat} {posts : List Post}
    (hall : ∀ p ∈ e.world.store.timeline u, e.settled u p)
    (hg : (e.world.cache.get now u).1 = some posts) :
    posts.take c.queryLimit = (Post.newestFirst (e.world.store.timeline u)).take c.shown := by
  have hsound := sound_of_reachable h
  have hcovers := answers_cover h hg
  have hlength : posts.length ≤ max 1 c.cacheMaxEntries := by
    rw [← entries_eq hsound]
    exact Cache.Store.length_le_of_get (bounded_of_reachable h) hg
  rw [← hcovers.take_eq (hsound.store.once u) hall, Config.shown, ← List.take_take,
    List.take_of_length_le hlength]

/-! ### Answers -/

/-- A reading call asked the store in one of some states. -/
def AskedStore (es : List Engine) (n : Nat) : Prop :=
  ∃ e ∈ es, ∃ call version, e.reads[n]? = some call ∧ call.stage = .querying version

/-- How far a reading call has come, when the timeline has certain rows and all of them count. -/
def Gives (c : Config) (rows : List Post) (asked : Prop) : ReadStage → Prop
  | .askingCache | .askingVersion => ¬asked
  | .querying _ => asked
  | .refilling posts => asked ∧ posts = (Post.newestFirst rows).take c.queryLimit
  | .finished (.ok posts) =>
    asked ∧ posts = (Post.newestFirst rows).take c.queryLimit ∨
      ¬asked ∧ posts = (Post.newestFirst rows).take c.shown
  | .finished (.error _) => True

theorem Gives.of_iff {rows : List Post} {asked asked' : Prop} {s : ReadStage}
    (h : Gives c rows asked s) (ha : asked' ↔ asked) : Gives c rows asked' s := by
  rwa [propext ha]

theorem askedStore_append {n : Nat} {call : Read} (hn : e'.reads[n]? = some call) :
    AskedStore (es ++ [e']) n ↔ AskedStore es n ∨ ∃ version, call.stage = .querying version := by
  constructor
  · rintro ⟨s, hs, other, version, hother, hstage⟩
    rcases List.mem_append.mp hs with hs | hs
    · exact .inl ⟨s, hs, other, version, hother, hstage⟩
    · rw [List.mem_singleton.mp hs, hn] at hother
      cases hother
      exact .inr ⟨version, hstage⟩
  · rintro (⟨s, hs, hasked⟩ | ⟨version, hstage⟩)
    · exact ⟨s, List.mem_append_left _ hs, hasked⟩
    · exact ⟨e', List.mem_append_right _ (List.mem_singleton_self e'), call, version, hn, hstage⟩

/-- Where another call makes a step, a reading call has come as far as it had. -/
theorem Gives.kept {rows : List Post} {n : Nat} {call : Read}
    (h : Gives c rows (AskedStore es n) call.stage) (hn : e'.reads[n]? = some call) :
    Gives c rows (AskedStore (es ++ [e']) n) call.stage := by
  refine h.of_iff ((askedStore_append hn).trans (or_iff_left_of_imp ?_))
  rintro ⟨version, hstage⟩
  rwa [hstage] at h

/-- A reading call after a step is as it was, or new, or made the step. -/
theorem read_of_step (hs : Step c e e') {n : Nat} {call : Read} (hn : e'.reads[n]? = some call) :
    e.reads[n]? = some call ∨ n = e.reads.length ∧ call = .start call.user ∨
      ∃ old m, e.reads[n]? = some old ∧ (Read.machine c).Step old e.world m call e'.world := by
  cases hs with
  | read user =>
    rw [List.getElem?_append] at hn
    split at hn
    next => exact .inl hn
    next hlt =>
      obtain ⟨hle, hcall⟩ := List.getElem?_eq_some_iff.mp hn
      have hlast : n - e.reads.length = 0 := Nat.lt_one_iff.mp hle
      simp only [hlast, List.getElem_singleton] at hcall
      rw [← hcall]
      exact .inr (.inl ⟨by omega, rfl⟩)
  | @reading k old next m w hk hstep =>
    by_cases hkn : k = n
    · subst hkn
      obtain ⟨hlt, -⟩ := List.getElem?_eq_some_iff.mp hk
      have hnext : some next = some call := (List.getElem?_set_self hlt).symm.trans hn
      cases hnext
      exact .inr (.inr ⟨old, m, hk, hstep⟩)
    · exact .inl ((List.getElem?_set_ne hkn).symm.trans hn)
  | _ => exact .inl hn

/-- No reading call goes away. -/
theorem Path.length_reads_le (h : Path c e₀ es e) :
    ∀ s ∈ es, s.reads.length ≤ e.reads.length := by
  induction h with
  | start => exact fun s hs => Nat.le_of_eq (congrArg (·.reads.length) (List.mem_singleton.mp hs))
  | @step es e e' _ hs ih =>
    have hle : e.reads.length ≤ e'.reads.length := by
      cases hs <;> simp [readOn, created]
    intro s hs
    rcases List.mem_append.mp hs with hs | hs
    · exact Nat.le_trans (ih s hs) hle
    · exact Nat.le_of_eq (congrArg (·.reads.length) (List.mem_singleton.mp hs))

/-- A step of a reading call, when all rows of its timeline count. -/
theorem gives_of_course {w : World} {m : Read.Move} {before after : ReadStage} {asked : Prop}
    (h : Reachable c e) (hall : ∀ p ∈ e.world.store.timeline u, e.settled u p)
    (hc : Read.Course c u e.world before m after w)
    (hg : Gives c (e.world.store.timeline u) asked before) :
    Gives c (e.world.store.timeline u) (asked ∨ ∃ version, after = .querying version) after := by
  have hsame (hn : ∀ version, after ≠ .querying version) :
      (asked ∨ ∃ version, after = .querying version) ↔ asked :=
    or_iff_left fun ⟨version, hq⟩ => hn version hq
  cases hc with
  | cached now =>
    have hfound (posts : List Post) (hp : (e.world.cache.get now u).1 = some posts) :=
      take_found h hall hp
    generalize (e.world.cache.get now u).1 = found at hfound hsame ⊢
    match found with
    | some (p :: posts) => exact .of_iff (.inr ⟨hg, hfound _ rfl⟩) (hsame nofun)
    | some [] | none => exact .of_iff (s := .askingVersion) hg (hsame nofun)
  | notCached error => exact .of_iff (s := .askingVersion) hg (hsame nofun)
  | versioned | notVersioned error => exact .inr ⟨_, rfl⟩
  | @queried version posts hq =>
    have hposts : posts = (Post.newestFirst (e.world.store.timeline u)).take c.queryLimit := by
      unfold Memory.query Memory.newest at hq
      split at hq
      next => cases hq
      next => exact (Except.ok.inj hq).symm
    match version, posts with
    | some _, p :: posts => exact .of_iff (s := .refilling _) ⟨hg, hposts⟩ (hsame nofun)
    | some _, [] | none, _ => exact .of_iff (.inl ⟨hg, hposts⟩) (hsame nofun)
  | notQueried version error => trivial
  | waited posts => exact .of_iff (.inl hg) (hsame nofun)
  | cancelled version => trivial

/-- What the reading calls give that begin on a path, of a timeline to which nothing is written on
it and whose rows all count. -/
theorem gives_of_path (h : Path c e₀ es e) (h₀ : Reachable c e₀) {rows : List Post}
    (hrows : ∀ s ∈ es, s.world.store.timeline u = rows) (hc : ∀ p ∈ rows, e₀.settled u p) {n : Nat}
    (hlater : e₀.reads.length ≤ n) {stage : ReadStage} (hn : e.reads[n]? = some ⟨u, stage⟩) :
    Gives c rows (AskedStore es n) stage := by
  induction h generalizing stage with
  | start => exact absurd (List.getElem?_eq_some_iff.mp hn).1 (Nat.not_lt.mpr hlater)
  | @step es e e' hpath hs ih =>
    have hrows' := fun s hs => hrows s (List.mem_append_left _ hs)
    have hrow : e.world.store.timeline u = rows := hrows' e hpath.mem
    have hall : ∀ p ∈ e.world.store.timeline u, e.settled u p := by
      rw [hrow]
      exact settled_of_path hpath h₀ hrows' hc
    rcases read_of_step hs hn with hold | ⟨rfl, hstart⟩ | ⟨old, m, hold, hstep⟩
    · exact (ih hrows' hold).kept hn
    · -- A call that has just begun was in no state before.
      cases hstart
      rintro ⟨s, hs, call, version, hcall, hstage⟩
      rcases List.mem_append.mp hs with hs | hs
      · have hlt := (List.getElem?_eq_some_iff.mp hcall).1
        exact absurd (hpath.length_reads_le s hs) (Nat.not_le.mpr hlt)
      · rw [List.mem_singleton.mp hs, hn] at hcall
        cases hcall
        cases hstage
    · obtain ⟨huser, hcourse⟩ := Read.course_of_step hstep
      obtain ⟨user, before⟩ := old
      cases huser
      have hbefore := hrow ▸ ih hrows' hold
      exact (hrow ▸ gives_of_course (hpath.reachable h₀) hall hcourse hbefore).of_iff
        (askedStore_append hn)

theorem shown_of_check {raw : Settings.Raw} {s : Settings} (h : Settings.check raw = .ok s) :
    s.serviceConfig.shown = min s.timeline.queryLimit s.cache.maxEntries := by
  obtain ⟨-, -, -, -, hcache, -, -⟩ := Settings.sections_of_check h
  have hpos : 1 ≤ s.cache.maxEntries := (Settings.pos_of_checkCache hcache).2
  exact congrArg (min s.timeline.queryLimit) (Nat.max_eq_right hpos)

section Settings
variable {raw : Settings.Raw} {s : Settings} {rows : List Post}

/-- What a finished call gives, by who answered it, and what it starts with in any case. -/
theorem answer_of_path (hcheck : Settings.check raw = .ok s) (h₀ : Reachable s.serviceConfig e₀)
    (h : Path s.serviceConfig e₀ es e) (hrows : ∀ t ∈ es, t.world.store.timeline u = rows)
    (hall : ∀ p ∈ rows, e₀.settled u p) {n : Nat} (hlater : e₀.reads.length ≤ n)
    {posts : List Post} (hn : e.reads[n]? = some ⟨u, .finished (.ok posts)⟩) :
    let newest := Post.newestFirst rows
    (AskedStore es n → posts = newest.take s.timeline.queryLimit) ∧
      (¬AskedStore es n → posts = newest.take (min s.timeline.queryLimit s.cache.maxEntries)) ∧
      posts.take s.cache.maxEntries =
        newest.take (min s.timeline.queryLimit s.cache.maxEntries) := by
  intro newest
  rcases gives_of_path h h₀ hrows hall hlater hn with ⟨hasked, hposts⟩ | ⟨hasked, hposts⟩
  · refine ⟨fun _ => hposts, fun hnot => absurd hasked hnot, ?_⟩
    rw [hposts, List.take_take, Nat.min_comm]
    rfl
  · rw [shown_of_check hcheck] at hposts
    refine ⟨fun hyes => absurd hyes hasked, fun _ => hposts, ?_⟩
    rw [hposts, List.take_take, Nat.min_eq_right (Nat.min_le_right ..)]

/-- **Reads agree as far as a slice goes.** Of a timeline to which nothing is written, and whose
rows all count, every read that the store was asked for gives the newest posts up to the limit of
queries, and every other read the newest posts up to that limit and the bound of the cache. So two
reads give the same if the limit is within the bound or if the same peer answered both, and in any
case they start with the same posts, as many as the cache keeps. -/
theorem reads_agree (hcheck : Settings.check raw = .ok s) (h₀ : Reachable s.serviceConfig e₀)
    (h : Path s.serviceConfig e₀ es e) (hrows : ∀ t ∈ es, t.world.store.timeline u = rows)
    (hall : ∀ p ∈ rows, e₀.settled u p) {i j : Nat} (hi : e₀.reads.length ≤ i)
    (hj : e₀.reads.length ≤ j) {ps qs : List Post}
    (hps : e.reads[i]? = some ⟨u, .finished (.ok ps)⟩)
    (hqs : e.reads[j]? = some ⟨u, .finished (.ok qs)⟩) :
    let newest := Post.newestFirst rows
    (AskedStore es i → ps = newest.take s.timeline.queryLimit) ∧
      (¬AskedStore es i → ps = newest.take (min s.timeline.queryLimit s.cache.maxEntries)) ∧
      (s.timeline.queryLimit ≤ s.cache.maxEntries ∨ (AskedStore es i ↔ AskedStore es j) →
        ps = qs) ∧
      ps.take s.cache.maxEntries = qs.take s.cache.maxEntries := by
  intro newest
  obtain ⟨hasked, hfound, hstart⟩ := answer_of_path hcheck h₀ h hrows hall hi hps
  obtain ⟨hasked', hfound', hstart'⟩ := answer_of_path hcheck h₀ h hrows hall hj hqs
  refine ⟨hasked, hfound, fun hsame => ?_, hstart.trans hstart'.symm⟩
  by_cases hone : AskedStore es i <;> by_cases htwo : AskedStore es j
  · exact (hasked hone).trans (hasked' htwo).symm
  · have hle := hsame.resolve_right fun hiff => htwo (hiff.mp hone)
    rw [hasked hone, hfound' htwo, Nat.min_eq_left hle]
  · have hle := hsame.resolve_right fun hiff => hone (hiff.mpr htwo)
    rw [hfound hone, hasked' htwo, Nat.min_eq_left hle]
  · exact (hfound hone).trans (hfound' htwo).symm

end Settings

/-- A timeline of two posts is read, and the cache, which keeps one post in a slice, takes the
refill; then the timeline is read again. -/
theorem path_of_rereads :
    let c : Config := ⟨50, 1, 2000, 1000, .invalidate, .strict, ⟨50, 100⟩⟩
    let bob : UserId := ⟨"bob"⟩
    let older : Post := default
    let newer : Post := { older with id := ⟨.ofNat 1⟩ }
    ∃ e₀ e es, Reachable c e₀ ∧ Path c e₀ es e ∧
      (∀ t ∈ es, t.world.store.timeline bob = [newer, older]) ∧
      (∀ p ∈ [newer, older], e₀.settled bob p) ∧ e₀.reads.length = 0 ∧
      e.reads = [⟨bob, .finished (.ok [newer, older])⟩, ⟨bob, .finished (.ok [newer])⟩] := by
  intro c bob older newer
  let rows : List Post := [newer, older]
  let store : Memory := ⟨rows, [(bob, rows)]⟩
  have hsorted : rows.Pairwise fun a b => a.newer b := by decide
  have hids : rows.Pairwise (·.id ≠ ·.id) := by decide
  have hstore : store.Sound :=
    have hempty : Memory.Sound ⟨rows, []⟩ := ⟨hids, fun _ => List.forall_mem_nil _, fun _ => .nil⟩
    have hone := hempty.write (p := newer) (List.mem_cons_self ..) bob
    hone.write (p := older) (List.mem_of_getLast? rfl) bob
  have hquery : store.query bob 50 = .ok rows := by
    show Except.ok ((Post.newestFirst rows).take 50) = _
    rw [Post.newestFirst_of_newer hsorted]
    rfl
  let fresh : Cache.Store := .create ⟨10, 1, none⟩
  let missed : Cache.Store := (fresh.get 0 bob).2
  let told : Cache.Store := (missed.version bob).2
  let filled : Cache.Store := (told.refill 0 bob rows 0).2
  let used : Cache.Store := (filled.get 0 bob).2
  let stand (cache : Cache.Store) (reads : List ReadStage) (refills : List Refill) : Engine :=
    ⟨⟨store, cache⟩, [], reads.map (⟨bob, ·⟩), refills, []⟩
  let refill (done : Bool) : Refill := ⟨bob, rows, 0, done⟩
  have hquerying : World.answer? ⟨store, told⟩ 0 (.query bob 50) (.ok rows) =
      some ⟨store, told⟩ := by
    simp only [World.answer?, hquery, if_true]
  have hslice : (filled.get 0 bob).1 = some [newer] := by
    show some (Post.newestFirst ((Post.newestFirst rows).take 1)) = _
    rw [Post.newestFirst_of_newer hsorted]
    exact congrArg some (Post.newestFirst_of_newer (List.pairwise_singleton ..))
  have hgetting : World.answer? ⟨store, filled⟩ 0 (.cacheGet bob) (.ok (some [newer])) =
      some ⟨store, used⟩ := by
    simp only [World.answer?, hslice, if_true]
    rfl
  have begun : Path c _ _ (stand fresh [] []) := .start
  have asking : Path c _ _ (stand fresh [.askingCache] []) := begun.step (.read bob)
  have cached : Path c _ _ (stand missed [.askingVersion] []) :=
    asking.answered (n := 0) (q := ⟨.cacheGet bob, .cached⟩) rfl rfl 0 (.ok none) rfl rfl
  have versioned : Path c _ _ (stand told [.querying (some 0)] []) :=
    cached.answered (n := 0) (q := ⟨.cacheVersion bob, .versioned⟩) rfl rfl 0 (.ok 0) rfl rfl
  have queried : Path c _ _ (stand told [.refilling rows] [refill false]) :=
    versioned.answered (n := 0) rfl rfl 0 _ hquerying rfl
  have refilled : Path c _ _ (stand filled [.refilling rows] [refill true]) :=
    queried.step (.refilling (n := 0) rfl
      (@Machine.Step.answered _ _ _ _ _ ⟨.cacheRefill bob rows 0, .stored⟩ 0 (.ok true) _ _
        (List.mem_cons_self ..) rfl rfl))
  have read : Path c _ _ (stand filled [.finished (.ok rows)] [refill true]) :=
    refilled.step (.reading (n := 0) rfl (.own (m := .waited) rfl rfl))
  have again : Path c _ _ (stand filled [.finished (.ok rows), .askingCache] [refill true]) :=
    read.step (.read bob)
  have found : Path c _ _
      (stand used [.finished (.ok rows), .finished (.ok [newer])] [refill true]) :=
    again.answered (n := 1) rfl rfl 0 _ hgetting rfl
  refine ⟨_, _, _, .start 10 none hstore, found, ?_,
    fun p _ => ⟨List.forall_mem_nil _, List.not_mem_nil⟩, rfl, rfl⟩
  -- All states on the path have the same store.
  simp only [List.forall_mem_append, List.forall_mem_singleton]
  and_intros <;> rfl

/-- Settings that are allowed and by which the cache keeps one post of a timeline. -/
theorem check_of_one_entry :
    let raw : Settings.Raw :=
      { Settings.Raw.empty with
        cache := ⟨none, some 1, none⟩
        graph := ⟨some "http://[::1]", none⟩ }
    ∃ s, Settings.check raw = .ok s ∧
      s.serviceConfig = ⟨50, 1, 2000, 1000, .invalidate, .strict, ⟨50, 100⟩⟩ := by
  intro raw
  have hconfig : (Settings.check raw).toOption.map Settings.serviceConfig =
      some ⟨50, 1, 2000, 1000, .invalidate, .strict, ⟨50, 100⟩⟩ := by
    decide +kernel
  obtain ⟨s, hs, hc⟩ := Option.map_eq_some_iff.mp hconfig
  cases hr : Settings.check raw with
  | ok s' =>
    rw [hr] at hs
    cases hs
    exact ⟨s, rfl, hc⟩
  | error failure =>
    rw [hr] at hs
    cases hs

/-- The first read is answered by the store and the second by the cache. -/
theorem reads_agree_of_refilled : ∃ (raw : Settings.Raw) (s : Settings) (e₀ e : Engine)
    (es : List Engine) (u : UserId) (newer older : Post), Settings.check raw = .ok s ∧
      Reachable s.serviceConfig e₀ ∧ Path s.serviceConfig e₀ es e ∧
      (∀ t ∈ es, t.world.store.timeline u = [newer, older]) ∧
      (∀ p ∈ [newer, older], e₀.settled u p) ∧ e₀.reads.length ≤ 0 ∧ e₀.reads.length ≤ 1 ∧
      e.reads[0]? = some ⟨u, .finished (.ok [newer, older])⟩ ∧
      e.reads[1]? = some ⟨u, .finished (.ok [newer])⟩ ∧
      [newer, older].take s.cache.maxEntries = [newer].take s.cache.maxEntries := by
  obtain ⟨s, hcheck, hc⟩ := check_of_one_entry
  obtain ⟨e₀, e, es, h₀, h, hrows, hall, hnone, hreads⟩ := path_of_rereads
  rw [← hc] at h₀ h
  have hi : e₀.reads.length ≤ 0 := Nat.le_of_eq hnone
  have hj : e₀.reads.length ≤ 1 := Nat.le_succ_of_le hi
  have hone := congrArg (·[0]?) hreads
  have htwo := congrArg (·[1]?) hreads
  have hagree := reads_agree hcheck h₀ h hrows hall hi hj hone htwo
  exact ⟨_, s, e₀, e, es, _, _, _, hcheck, h₀, h, hrows, hall, hi, hj, hone, htwo, hagree.2.2.2⟩

/-- Where the cache keeps fewer posts than the store is asked for, a timeline can be read twice with
nothing written in between, and the second read gives fewer posts. -/
theorem rereads_not_always_equal : ¬∀ (raw : Settings.Raw) (s : Settings) (e₀ e : Engine)
    (es : List Engine) (u : UserId) (rows : List Post) (i j : Nat) (ps qs : List Post),
    Settings.check raw = .ok s → Reachable s.serviceConfig e₀ → Path s.serviceConfig e₀ es e →
      (∀ t ∈ es, t.world.store.timeline u = rows) → (∀ p ∈ rows, e₀.settled u p) →
      e₀.reads.length ≤ i → e₀.reads.length ≤ j →
      e.reads[i]? = some ⟨u, .finished (.ok ps)⟩ → e.reads[j]? = some ⟨u, .finished (.ok qs)⟩ →
      ps = qs := by
  intro hequal
  obtain ⟨s, hcheck, hc⟩ := check_of_one_entry
  obtain ⟨e₀, e, es, h₀, h, hrows, hall, hnone, hreads⟩ := path_of_rereads
  rw [← hc] at h₀ h
  have hi : e₀.reads.length ≤ 0 := Nat.le_of_eq hnone
  have hlists := hequal _ s e₀ e es _ _ 0 1 _ _ hcheck h₀ h hrows hall hi (Nat.le_succ_of_le hi)
    (congrArg (·[0]?) hreads) (congrArg (·[1]?) hreads)
  cases hlists

end Engine
end Timelines.Service
