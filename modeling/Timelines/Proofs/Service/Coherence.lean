import Timelines.Proofs.Service.Soundness

/-! The cache agrees with the store.

A slice may lack a post of its user's timeline only while the post's upkeep is not over, or when so
many newer ones are in the slice that it need not be there. `slices_cover` says so of every state
that an engine can reach, whatever calls it serves and in whatever order they make their steps.

What is left to show is that the calls that create posts keep the engine sound. A step of theirs
changes the cache only where it ends a follower's upkeep, and only there does a row come to count
(`settled_of_creating`). -/
namespace Timelines.Service
open Cache (Operation)

namespace Engine

variable {c : Config} {e : Engine}

/-! ### Steps of the calls that create posts -/

/-- The cache is touched by a follower's upkeep alone. -/
theorem cache_of_course {author : UserId} {content : String} {w w' : World} {s s' : CreateStage}
    {m : Create.Move} (h : Create.Course c author content w s m s' w') :
    (w'.cache = w.cache ∧ ∀ u, m ≠ .maintained u (.ok ())) ∨
      ∃ u now post n spread waiting running, m = .maintained u (.ok ()) ∧ u ∈ running ∧
        s = .maintaining post n spread waiting running ∧ w' = w.upkeep c now u post := by
  cases h with
  | maintained post n spread waiting now hu =>
    exact .inr ⟨_, now, post, n, spread, waiting, _, rfl, hu, rfl, rfl⟩
  | _ => exact .inl ⟨rfl, nofun⟩

/-- A follower's upkeep is an operation on the cache that writes the follower's timeline. -/
theorem exists_upkeep (c : Config) (w : World) (now : Nat) (u : UserId) (post : Post) :
    ∃ o : Operation, o.written? = some u ∧ w.upkeep c now u post = operated w now o := by
  unfold World.upkeep
  cases c.maintenance with
  | invalidate => exact ⟨.invalidate u, rfl, rfl⟩
  | push => exact ⟨.push u post c.cacheMaxEntries, rfl, rfl⟩

theorem operated_of_course {author : UserId} {content : String} {w w' : World}
    {s s' : CreateStage} {m : Create.Move} (h : Create.Course c author content w s m s' w') :
    w'.cache = w.cache ∨ ∃ now o, w'.cache = w.cache.after now o := by
  refine (cache_of_course h).imp And.left ?_
  rintro ⟨u, now, post, -, -, -, -, -, -, -, rfl⟩
  obtain ⟨o, -, ho⟩ := exists_upkeep c w now u post
  exact ⟨now, o, congrArg (·.cache) ho⟩

/-- The upkeep that failed is put down as a lapse. -/
theorem lapse?_of_course {author : UserId} {content : String} {w w' : World} {call : Create}
    {s' : CreateStage} {m : Create.Move} {u : UserId} {p : Post} {failure : CacheError}
    (h : Create.Course c author content w call.stage m s' w')
    (hm : m = .maintained u (.error failure)) (hp : call.stage.post? = some p) :
    call.lapse? m = some (u, p) := by
  generalize hb : call.stage = before at h hp
  cases h with
  | notMaintained post n spread waiting e hu =>
    cases hm
    cases hp
    simp only [Create.lapse?, hb]
  | _ => cases hm

/-- A row counts after a step only if it did before, or if its upkeep is over with the step. -/
theorem settled_of_creating {w : World} {n : Nat} {call next : Create} {m : Create.Move}
    {author : UserId} {content : String} (h : e.Sound c) (hn : e.creates[n]? = some call)
    (hc : Create.Course c author content e.world call.stage m next.stage w) (u : UserId) (p : Post)
    (hp : p ∈ w.store.timeline u)
    (hs : (e.created n call m next w).settled u p) :
    p ∈ e.world.store.timeline u ∧ e.settled u p ∨
      call.stage.post? = some p ∧ m = .maintained u (.ok ()) := by
  have heff := effect_of_course h.store (h.stages call (List.mem_of_getElem? hn)) hc
  obtain ⟨hcalls, hlapses⟩ := hs
  obtain ⟨hlt, -⟩ := List.getElem?_eq_some_iff.mp hn
  have hnext : ¬next.stage.awaits u p := hcalls next (List.mem_set hlt next)
  rcases heff.awaited u p hp hnext with ⟨hold, ha⟩ | ⟨hpost, reply, rfl⟩
  · refine .inl ⟨hold, fun other ho => ?_, fun hl => hlapses (List.mem_append_left _ hl)⟩
    obtain ⟨i, hi⟩ := List.mem_iff_getElem?.mp ho
    by_cases hin : i = n
    · cases (hin ▸ hi).symm.trans hn
      exact ha
    · exact hcalls other (List.mem_of_getElem? ((List.getElem?_set_ne (Ne.symm hin)).trans hi))
  · cases reply with
    | ok done => exact .inr ⟨hpost, rfl⟩
    | error error =>
      refine absurd (List.mem_append_right _ (Option.mem_toList.mpr ?_)) hlapses
      exact lapse?_of_course hc rfl hpost

theorem working_set {n : Nat} {call next : Create} (hn : e.creates[n]? = some call) (i : Nat) :
    (e.creates.set n next)[i]?.bind (·.stage.post?) =
      if i = n then next.stage.post? else e.working i := by
  obtain ⟨hlt, -⟩ := List.getElem?_eq_some_iff.mp hn
  unfold working
  by_cases hi : i = n
  · rw [if_pos hi, hi, List.getElem?_set_self hlt, Option.bind_some]
  · rw [if_neg hi, List.getElem?_set_ne (Ne.symm hi)]

theorem working_eq {n : Nat} {call : Create} (hn : e.creates[n]? = some call) :
    e.working n = call.stage.post? := by
  rw [working, hn, Option.bind_some]

/-- A post at work is recorded. -/
theorem Sound.mem_posts_of_working (h : e.Sound c) {i : Nat} {p : Post}
    (hp : e.working i = some p) : p ∈ e.world.store.posts := by
  obtain ⟨call, hi, hpost⟩ := Option.bind_eq_some_iff.mp hp
  have hs := h.stages call (List.mem_of_getElem? hi)
  cases hstage : call.stage with
  | resolving post | spreading followers f | maintaining post n spread waiting running =>
    rw [hstage] at hs hpost
    cases hpost
    exact hs.1
  | _ =>
    rw [hstage] at hpost
    cases hpost

/-- The calls stay apart: a call goes on with its post, or takes up a new one. -/
theorem apart_of_effect {n : Nat} {call next : Create} {m : Create.Move} {store : Store.Memory}
    (h : e.Sound c) (hn : e.creates[n]? = some call)
    (heff : Effect c e.world.store call.stage m next.stage store) (i j : Nat) (p : Post)
    (hi : (e.creates.set n next)[i]?.bind (·.stage.post?) = some p)
    (hj : (e.creates.set n next)[j]?.bind (·.stage.post?) = some p) : i = j := by
  have hwork (k : Nat) (hk : e.working k = some p) (hp : next.stage.post? = some p) : k = n := by
    rcases heff.work p hp with hold | hfresh
    · exact h.apart k n p hk ((working_eq hn).trans hold)
    · exact absurd rfl (hfresh p (h.mem_posts_of_working hk))
  rw [working_set hn] at hi hj
  split at hi <;> split at hj
  next hin hjn => rw [hin, hjn]
  next hin hjn => rw [hin, hwork j hj hi]
  next hin hjn => rw [hjn, hwork i hi hj]
  next => exact h.apart i j p hi hj

/-- What the stages tell goes on to hold. -/
theorem stages_of_effect {n : Nat} {call next : Create} {m : Create.Move} {store : Store.Memory}
    (h : e.Sound c) (hn : e.creates[n]? = some call)
    (heff : Effect c e.world.store call.stage m next.stage store) :
    ∀ other ∈ e.creates.set n next, other.stage.Sound c store := by
  intro other ho
  obtain ⟨i, hi⟩ := List.mem_iff_getElem?.mp ho
  by_cases hin : i = n
  · obtain ⟨hlt, -⟩ := List.getElem?_eq_some_iff.mp hn
    rw [hin, List.getElem?_set_self hlt] at hi
    cases hi
    exact heff.sound
  · rw [List.getElem?_set_ne (Ne.symm hin)] at hi
    refine (h.stages other (List.mem_of_getElem? hi)).mono heff.posts fun p hp u => ?_
    refine ⟨heff.others p (fun hc => hin ?_) u, heff.rows u p⟩
    exact h.apart i n p ((working_eq hi).trans hp) ((working_eq hn).trans hc)

/-- A pushed post goes into the slice that is there, and counts from now on. -/
theorem covers_of_push (h : e.Sound c) {now : Nat} {u v : UserId} {post : Post}
    {slice : Cache.Slice} (hpost : post ∈ e.world.store.timeline v)
    (hf : (e.world.cache.push now v post c.cacheMaxEntries).slices.find? u = some slice) :
    Post.Covers c.shown (e.world.store.timeline u) (fun q => e.settled u q ∨ u = v ∧ q = post)
      slice.posts := by
  rcases Cache.Store.find?_push hf with ⟨hne, hold⟩ | ⟨rfl, old, hold, -, rfl⟩
  · refine (h.slices u slice hold).mono (fun _ hq => hq) fun q hq hc => ⟨hq, ?_⟩
    exact hc.resolve_right fun hv => hne hv.1
  · have hshown : c.shown ≤ max 1 (min c.cacheMaxEntries e.world.cache.config.entries) := by
      rw [entries_eq h, Config.shown]
      omega
    have hid : ∀ q ∈ e.world.store.timeline u, q.id = post.id → q = post := fun q hq =>
      h.store.eq_of_id (h.store.recorded u q hq) (h.store.recorded u post hpost)
    exact ((h.slices u old hold).grow hpost hid hshown).mono (fun _ hq => hq) fun q hq hc =>
      ⟨hq, hc.symm.imp_left (·.2)⟩

/-- After a follower's upkeep the follower's slice, if there still is one, shows the post. -/
theorem covers_of_upkeep (h : e.Sound c) {now : Nat} {u v : UserId} {post : Post}
    {slice : Cache.Slice} {counts : Post → Prop}
    (hpost : c.maintenance = .push → post ∈ e.world.store.timeline v)
    (hf : (e.world.upkeep c now v post).cache.slices.find? u = some slice)
    (hcounts : ∀ p ∈ e.world.store.timeline u, counts p → e.settled u p ∨ u = v ∧ p = post) :
    Post.Covers c.shown (e.world.store.timeline u) counts slice.posts := by
  unfold World.upkeep at hf
  split at hf
  next hc =>
    obtain ⟨hne, hold⟩ := Cache.Store.find?_invalidate hf
    refine (h.slices u slice hold).mono (fun _ hp => hp) fun p hp hcount => ⟨hp, ?_⟩
    exact (hcounts p hp hcount).resolve_right fun hv => hne hv.1
  next hc =>
    exact (covers_of_push h (hpost hc) hf).mono (fun _ hp => hp) fun p hp hcount =>
      ⟨hp, hcounts p hp hcount⟩

theorem slices_of_creating {w : World} {n : Nat} {call next : Create} {m : Create.Move}
    {author : UserId} {content : String} (h : e.Sound c) (hn : e.creates[n]? = some call)
    (hc : Create.Course c author content e.world call.stage m next.stage w) (u : UserId)
    (slice : Cache.Slice) (hf : w.cache.slices.find? u = some slice) :
    Post.Covers c.shown (w.store.timeline u)
      ((e.created n call m next w).settled u) slice.posts := by
  have hstage := h.stages call (List.mem_of_getElem? hn)
  have heff := effect_of_course h.store hstage hc
  have hsettled := settled_of_creating h hn hc u
  rcases cache_of_course hc with ⟨hcache, hm⟩ | ⟨v, now, post, k, spread, waiting, running, rfl, hv,
    hs, rfl⟩
  · rw [hcache] at hf
    refine (h.slices u slice hf).mono (heff.rows u) fun p hp hcount => ?_
    exact (hsettled p hp hcount).resolve_right fun hover => hm u hover.2
  · rw [hs] at hstage
    rw [World.store_upkeep] at hsettled ⊢
    refine covers_of_upkeep h (fun hc => hstage.2 hc v (.inr hv)) hf fun p hp hcount => ?_
    refine (hsettled p hp hcount).imp And.right fun hover => ?_
    obtain ⟨hpost, hm⟩ := hover
    rw [hs] at hpost
    cases hpost
    cases hm
    exact ⟨rfl, rfl⟩

theorem onward_creating {w : World} {n : Nat} {call next : Create} {m : Create.Move}
    {author : UserId} {content : String} (h : e.Sound c) (hn : e.creates[n]? = some call)
    (hc : Create.Course c author content e.world call.stage m next.stage w) :
    Onward e.world e.settled w (e.created n call m next w).settled where
  rows := (effect_of_course h.store (h.stages call (List.mem_of_getElem? hn)) hc).rows
  told := by
    intro u
    rcases operated_of_course hc with hcache | ⟨now, o, hcache⟩
    · exact Nat.le_of_eq (by rw [hcache])
    · rw [hcache]
      exact Cache.Store.told_le_after h.issued now o u
  counts := by
    intro u p hp hcount
    refine (settled_of_creating h hn hc u p hp hcount).imp_right fun hover => ?_
    rcases cache_of_course hc with ⟨-, hm⟩ | ⟨v, now, post, -, -, -, -, hm, -, -, rfl⟩
    · exact absurd hover.2 (hm u)
    · cases hm.symm.trans hover.2
      obtain ⟨o, hwritten, ho⟩ := exists_upkeep c e.world now u post
      rw [ho]
      exact Cache.Store.told_lt_after h.issued now hwritten

theorem sound_creating {w : World} {n : Nat} {call next : Create} {m : Create.Move} (h : e.Sound c)
    (hn : e.creates[n]? = some call) (hs : (Create.machine c).Step call e.world m next w) :
    (e.created n call m next w).Sound c := by
  obtain ⟨-, -, hc⟩ := Create.course_of_step hs
  have heff := effect_of_course h.store (h.stages call (List.mem_of_getElem? hn)) hc
  have honward := onward_creating h hn hc
  refine ⟨heff.stored, ?_, ?_, stages_of_effect h hn heff, apart_of_effect h hn heff,
    slices_of_creating h hn hc, ?_, fun r hr hd => (h.refills r hr hd).onward honward⟩
  · rcases operated_of_course hc with hcache | ⟨now, o, hcache⟩
    · exact hcache ▸ h.issued
    · exact hcache ▸ Cache.Store.issued_after h.issued now o
  · rcases operated_of_course hc with hcache | ⟨now, o, hcache⟩
    · exact hcache ▸ h.entries
    · have hconfig := Cache.Store.config_after e.world.cache now o
      exact (congrArg (·.maxEntries) (hcache ▸ hconfig)).trans h.entries
  · exact fun read hr v hv => Nat.le_trans (h.reads read hr v hv) (honward.told read.user)

/-! ### Every state -/

/-- A new call is at work on nothing. -/
theorem sound_create (h : e.Sound c) (author : UserId) (content : String) :
    Sound c { e with creates := e.creates ++ [.start author content] } := by
  have hsettled {u : UserId} {p : Post}
      (hs : settled { e with creates := e.creates ++ [.start author content] } u p) :
      e.settled u p :=
    ⟨fun call hm => hs.1 call (List.mem_append_left _ hm), hs.2⟩
  have hworking {i : Nat} {p : Post}
      (hp : working { e with creates := e.creates ++ [.start author content] } i = some p) :
      e.working i = some p := by
    obtain ⟨call, hi, hpost⟩ := Option.bind_eq_some_iff.mp hp
    rw [List.getElem?_append] at hi
    split at hi
    next => exact (working_eq hi).trans hpost
    next =>
      rw [List.mem_singleton.mp (List.mem_of_getElem? hi)] at hpost
      cases hpost
  refine ⟨h.store, h.issued, h.entries, fun call hm => ?_, ?_, ?_, h.reads, ?_⟩
  · rcases List.mem_append.mp hm with hm | hm
    · exact h.stages call hm
    · rw [List.mem_singleton.mp hm]
      trivial
  · exact fun i j p hi hj => h.apart i j p (hworking hi) (hworking hj)
  · intro u slice hf
    exact (h.slices u slice hf).mono (fun _ hp => hp) fun p hp hs => ⟨hp, hsettled hs⟩
  · intro r hr hd
    refine (h.refills r hr hd).onward ⟨fun _ _ hp => hp, fun _ => Nat.le_refl _, ?_⟩
    exact fun u p hp hs => .inl ⟨hp, hsettled hs⟩

theorem sound_read (h : e.Sound c) (user : UserId) :
    Sound c { e with reads := e.reads ++ [.start user] } := by
  refine ⟨h.store, h.issued, h.entries, h.stages, h.apart, h.slices, fun read hm => ?_, h.refills⟩
  rcases List.mem_append.mp hm with hm | hm
  · exact h.reads read hm
  · rw [List.mem_singleton.mp hm]
    exact nofun

theorem sound_step {e' : Engine} (h : e.Sound c) (hs : Step c e e') : e'.Sound c := by
  cases hs with
  | create author content => exact sound_create h author content
  | read user => exact sound_read h user
  | creating hn hs => exact sound_creating h hn hs
  | reading hn hs => exact sound_reading h hn hs
  | refilling hn hs => exact sound_refilling h hn hs

theorem sound_of_reachable (h : Reachable c e) : e.Sound c := by
  induction h with
  | start users ttl hm => exact sound_start hm users ttl
  | step _ hs ih => exact sound_step ih hs

/-- **Slices cover their timelines.** In every state that an engine can reach, a slice holds posts
of its user's timeline only, each once and the newest first. It holds every post of the timeline
whose upkeep is over, but for one that comes after as many posts of the slice as the engine asks the
store for, or as a slice can hold. -/
theorem slices_cover (h : Reachable c e) {u : UserId} {slice : Cache.Slice}
    (hs : e.world.cache.slices.find? u = some slice) :
    (∀ p ∈ slice.posts, p ∈ e.world.store.timeline u) ∧
      (∀ p ∈ e.world.store.timeline u, e.settled u p → p ∈ slice.posts ∨
        min c.queryLimit (max 1 c.cacheMaxEntries) ≤ slice.posts.countP (·.newer p)) ∧
      slice.posts.Pairwise fun a b => a.newer b := by
  have hcovers := (sound_of_reachable h).slices u slice hs
  exact ⟨hcovers.within, hcovers.full, hcovers.sorted⟩

/-- A post is read into a slice, and a second one is created and pushed into it. Before the push the
slice lacks the second post, whose upkeep is not over; after it both posts are there. -/
theorem slices_cover_of_refill :
    let c : Config := ⟨50, 100, 2000, 1000, .push, .strict, ⟨50, 100⟩⟩
    let bob : UserId := ⟨"bob"⟩
    let older : Post := default
    let newer : Post := ⟨⟨.ofNat 1⟩, ⟨"alice"⟩, "hello", ⟨1000, 0⟩⟩
    ∃ before after slice slice',
      (Reachable c before ∧ before.world.cache.slices.find? bob = some slice ∧
        newer ∈ before.world.store.timeline bob ∧ ¬before.settled bob newer ∧
        slice.posts = [older]) ∧
      Reachable c after ∧ after.world.cache.slices.find? bob = some slice' ∧
      slice'.posts = [newer, older] ∧ ∀ p ∈ [older, newer],
        p ∈ after.world.store.timeline bob ∧ after.settled bob p ∧
          (p ∈ slice'.posts ∨ 50 ≤ slice'.posts.countP (·.newer p)) := by
  intro c bob older newer
  let alice : UserId := ⟨"alice"⟩
  let draft : Draft := ⟨alice, "hello", ⟨1000, 0⟩⟩
  let store : Store.Memory := ⟨[older], [(bob, [older])]⟩
  have hstore : store.Sound :=
    Store.Memory.Sound.write (m := ⟨[older], []⟩)
      ⟨List.pairwise_singleton .., fun _ => List.forall_mem_nil _, fun _ => .nil⟩
      (List.mem_singleton_self older) bob
  have hnewest : Post.newestFirst [older] = [older] :=
    Post.newestFirst_of_newer (List.pairwise_singleton ..)
  have hquery : store.query bob 50 = .ok [older] := by
    show Except.ok ((Post.newestFirst [older]).take 50) = _
    rw [hnewest]
    rfl
  let fresh : Cache.Store := .create ⟨10, 100, none⟩
  let missed : Cache.Store := (fresh.get 0 bob).2
  let told : Cache.Store := (missed.version bob).2
  let filled : Cache.Store := (told.refill 0 bob [older] 0).2
  let e (cache : Cache.Store) (stage : ReadStage) (refills : List Refill) : Engine :=
    ⟨⟨store, cache⟩, [], [⟨bob, stage⟩], refills, []⟩
  have asking : Reachable c (e fresh .askingCache []) := .step (.start 10 none hstore) (.read bob)
  have cached : Reachable c (e missed .askingVersion []) :=
    asking.readOn (n := 0) rfl (q := ⟨.cacheGet bob, .cached⟩) (List.mem_cons_self ..) 0
      (.ok none) rfl rfl
  have versioned : Reachable c (e told (.querying (some 0)) []) :=
    cached.readOn (n := 0) rfl (q := ⟨.cacheVersion bob, .versioned⟩) (List.mem_cons_self ..) 0
      (.ok 0) rfl rfl
  have hquerying : World.answer? ⟨store, told⟩ 0 (.query bob 50) (.ok [older]) =
      some ⟨store, told⟩ := by
    simp only [World.answer?, hquery, if_true]
  have queried : Reachable c (e told (.refilling [older]) [⟨bob, [older], 0, false⟩]) :=
    versioned.readOn (n := 0) rfl (q := ⟨.query bob 50, .queried⟩) (List.mem_cons_self ..) 0
      (.ok [older]) hquerying rfl
  have refilled : Reachable c (e filled (.refilling [older]) [⟨bob, [older], 0, true⟩]) :=
    queried.refilled (n := 0) rfl (q := ⟨.cacheRefill bob [older] 0, .stored⟩)
      (List.mem_cons_self ..) 0 (.ok true) rfl rfl
  have hslice : filled.slices.find? bob = some ⟨[older], 0⟩ := by
    show some (Cache.Slice.mk ((Post.newestFirst [older]).take 100) 0) = _
    rw [hnewest]
    rfl
  have hdated : Create.step? c ⟨alice, "hello", .dating⟩ (.dated (some ⟨1000, 0⟩)) =
      some ⟨alice, "hello", .recording draft⟩ := by
    have hc : checkContent "hello" = .ok () := by
      rw [checkContent, if_neg (by decide), if_neg (by decide)]
    simp only [Create.step?, Create.next?, Draft.make, hc]
    rfl
  have known := (refilled.step (.create alice "hello")).answered (n := 0) rfl
    (q := ⟨.userExists alice, .lookedUp⟩) (List.mem_cons_self ..) 0 (.ok true) rfl rfl
  have dated := known.own (n := 0) rfl _ rfl hdated
  have recorded := dated.answered (n := 0) rfl (q := ⟨.save draft, .recorded⟩)
    (List.mem_cons_self ..) 0 (.ok ⟨.ofNat 1⟩) rfl rfl
  have resolved := recorded.answered (n := 0) rfl (q := ⟨.followers alice, .resolved⟩)
    (List.mem_cons_self ..) 0 (.ok [bob]) rfl rfl
  have dispatched := resolved.own (n := 0) rfl (.spread .dispatch) rfl rfl
  have inLine := dispatched.own (n := 0) rfl (.spread (.ask 0)) rfl rfl
  have taken := inLine.own (n := 0) rfl (.spread .take) rfl rfl
  have written := taken.answered (n := 0) rfl
    (q := ⟨.write bob newer, fun reply => .spread (.wrote 0 reply)⟩) (List.mem_cons_self ..) 0
    (.ok ()) rfl rfl
  have backInLine := written.own (n := 0) rfl (.spread (.ask 0)) rfl rfl
  have spread := backInLine.own (n := 0) rfl (.spread .leave) rfl rfl
  have maintained := spread.own (n := 0) rfl .maintain rfl rfl
  have upkept := maintained.answered (n := 0) rfl (q := Create.upkeep c newer bob)
    (List.mem_cons_self ..) 0 (.ok ()) rfl rfl
  have hpushed : (filled.push 0 bob newer 100).slices.find? bob = some ⟨[newer, older], 0⟩ := by
    rw [Cache.Store.find?_push_self, hslice]
    rfl
  refine ⟨_, _, _, _, ⟨maintained, hslice, by decide, fun h => ?_, rfl⟩, upkept, hpushed, rfl,
    fun p hp => ?_⟩
  · exact h.1 _ (List.mem_singleton_self _) ⟨rfl, .inr (List.mem_singleton_self bob)⟩
  · refine ⟨hp, ?settled, (slices_cover upkept hpushed).2.1 p hp ?settled⟩
    exact ⟨List.forall_mem_singleton.mpr fun hawaits => False.elim hawaits, List.not_mem_nil⟩

/-- What the cache gives a reader covers the timeline, too. -/
theorem answers_cover (h : Reachable c e) {now : Nat} {u : UserId} {posts : List Post}
    (hg : (e.world.cache.get now u).1 = some posts) :
    Post.Covers c.shown (e.world.store.timeline u) (e.settled u) posts := by
  unfold Cache.Store.get at hg
  split at hg
  next => cases hg
  next slice hslice =>
    split at hg
    next => cases hg
    next =>
      cases hg
      have hcovers := (sound_of_reachable h).slices u slice hslice
      rwa [Post.newestFirst_of_newer hcovers.sorted]

end Engine
end Timelines.Service
