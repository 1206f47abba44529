import Timelines.Proofs.Cache.Slices
import Timelines.Proofs.Service.Coherence
import Timelines.Proofs.Service.Delivery

/-! The order in which a call asks its peers.

A call asks phase by phase: for the author, for the save, for the followers, for the writes of the
fan-out, for the upkeep of cached timelines and for the announcement. `requests_in_order` says that
nothing of a later phase is asked for while a request of an earlier one has no answer, what each
phase waits for, and whose slices are brought up to date. Nobody else's slice is touched. Somebody
else's version is, where the cache has to forget users to remember the versions of others. -/
namespace Timelines.Service

/-- The phase of a call in which it makes a request. -/
def Request.phase : Request → Nat
  | .userExists _ => 0
  | .save _ => 1
  | .followers _ => 2
  | .write .. => 3
  | .cachePush .. | .cacheInvalidate _ => 4
  | .publish _ => 5
  | _ => 6

/-- The user whose slice is to be brought up to date. -/
def Request.upkept? : Request → Option UserId
  | .cachePush u .. | .cacheInvalidate u => some u
  | _ => none

namespace Create

/-- The requests to bring up to date the slices of those that a report tells of. -/
def upkeepOf (c : Config) (post : Post) (followers : List UserId) (s : Spread) : List Request :=
  match c.maintenance with
  | .invalidate => (followers.take s.dispatched).map .cacheInvalidate
  | .push => s.delivered.map fun u => .cachePush u post c.cacheMaxEntries

variable {c : Config} {author : UserId} {content : String} {l : Log} {s : Spread}

theorem map_upkeep (c : Config) (post : Post) (followers : List UserId) (s : Spread) :
    (targets c followers s).map (fun u => (upkeep c post u).request) =
      upkeepOf c post followers s := by
  unfold targets upkeep upkeepOf
  cases c.maintenance <;> rfl

theorem upkept?_upkeep (c : Config) (post : Post) (u : UserId) :
    (upkeep c post u).request.upkept? = some u := by
  unfold upkeep
  cases c.maintenance <;> rfl

theorem nodup_targets {t : Trail} (h : Fanout.Settled t.followers t.writes s) :
    (targets c t.followers s).Nodup := by
  have hfollowers : t.followers.Nodup := nodup_distinct t.named
  unfold targets
  cases c.maintenance with
  | invalidate => exact hfollowers.sublist (List.take_sublist ..)
  | push => exact h.nodup_delivered hfollowers

/-! ### The requests of a log, phase by phase -/

/-- The requests made once the graph has named the followers. -/
structure Made (c : Config) (author : UserId) (content : String) (l : Log) (t : Trail)
    (taken : List UserId) (events : List Event) : Prop where
  drafted : Drafted author content t.draft
  known : l.known
  saved : l.saved = [(t.draft, t.id)]
  named : l.named = some t.named
  writes : l.writes = t.writes
  /-- The fan-out takes the followers in their order. -/
  written : t.writes.map (·.follower) <+: t.followers
  made : l.made = (t.spread author).made ++
    taken.map (fun u => (upkeep c t.post u).request) ++ events.map .publish
  /-- The upkeep begins when the fan-out is over. -/
  begun : match l.report with
    | some s => Fanout.Settled t.followers t.writes s ∧ taken <+: targets c t.followers s
    | none => taken = [] ∧ events = [] ∧ l.launched = []
  /-- The announcement begins when the upkeep is over. -/
  closed : events ≠ [] ∨ l.launched ≠ [] → ∀ s, l.report = some s → taken = targets c t.followers s

/-- A log is that of a call that has not got its post recorded, or of one that has and waits for the
followers, or of one that knows them. -/
theorem Account.cases {stage : CreateStage} (h : Account c author content l stage) :
    Unsaved author content l ∨
      (∃ draft id, Drafted author content draft ∧
        l = { made := [.userExists author, .save draft, .followers author], known := true
              saved := [(draft, id)] }) ∨
      ∃ t taken events, Made c author content l t taken events := by
  cases h with
  | lookingUp => exact .inl (.asked false)
  | dating => exact .inl (.asked true)
  | recording hd => exact .inl (.saving hd)
  | unsaved hu hr => exact .inl hu
  | undated => exact .inl (.asked true)
  | resolving hd => exact .inr (.inl ⟨_, _, hd, rfl⟩)
  | @jammed t hd hwrites =>
    have hnone : t.writes.map (·.follower) <+: t.followers := by simp [hwrites]
    exact .inr (.inr ⟨t, [], [], hd, rfl, rfl, rfl, rfl, hnone, by simp, ⟨rfl, rfl, rfl⟩,
      by simp [Trail.spread]⟩)
  | @spreading t f hd hh =>
    have hwritten : t.writes.map (·.follower) <+: t.followers :=
      ⟨f.queue ++ f.rest, by
        rw [← List.append_assoc]
        exact (Fanout.sound_of_history hh).accounted.kept⟩
    exact .inr (.inr ⟨t, [], [], hd, rfl, rfl, rfl, rfl, hwritten, by simp, ⟨rfl, rfl, rfl⟩,
      by simp [Trail.spread]⟩)
  | @maintaining t n s taken waiting running upkept hd hs htaken hupkept =>
    exact .inr (.inr ⟨t, taken, [], hd, rfl, rfl, rfl, rfl, hs.each ▸ List.take_prefix ..,
      (List.append_nil _).symm, ⟨hs, waiting, htaken⟩, by simp [Trail.upkeep, Trail.spread]⟩)
  | naming hk | launched hk hp =>
    refine .inr (.inr ⟨_, _, [], hk.drafted, rfl, rfl, rfl, rfl, ?_, (List.append_nil _).symm,
      ⟨hk.settled, List.prefix_rfl⟩, fun _ s hs => by cases hs; rfl⟩)
    exact hk.settled.each ▸ List.take_prefix ..
  | announcing hk hp | announced hk hp | unannounced hk hp hf =>
    refine .inr (.inr ⟨_, _, [_], hk.drafted, rfl, rfl, rfl, rfl, ?_, rfl,
      ⟨hk.settled, List.prefix_rfl⟩, fun _ s hs => by cases hs; rfl⟩)
    exact hk.settled.each ▸ List.take_prefix ..

end Create

/-! ### Requests of one phase -/

section Phase
variable {α : Type} {f : α → Request} {n : Nat}

theorem phase_of_mem (h : ∀ x, (f x).phase = n) {xs : List α} {r : Request} (hr : r ∈ xs.map f) :
    r.phase = n := by
  obtain ⟨x, -, rfl⟩ := List.mem_map.mp hr
  exact h x

theorem filter_phase (h : ∀ x, (f x).phase = n) (xs : List α) (k : Nat) :
    (xs.map f).filter (·.phase = k) = if n = k then xs.map f else [] := by
  split
  next hk => exact List.filter_eq_self.mpr fun r hr => by simp [phase_of_mem h hr, hk]
  next hk => exact List.filter_eq_nil_iff.mpr fun r hr => by simp [phase_of_mem h hr, hk]

/-- Requests in the order of their phases, of which a certain one is the last. -/
structure UpTo (n : Nat) (rs : List Request) : Prop where
  sorted : rs.Pairwise fun r q => r.phase ≤ q.phase
  le : ∀ r ∈ rs, r.phase ≤ n

/-- Requests in order, and then more of the same phase or of a later one. -/
theorem UpTo.append {k : Nat} {rs : List Request} (hrs : UpTo k rs) (hk : k ≤ n)
    (h : ∀ x, (f x).phase = n) (xs : List α) : UpTo n (rs ++ xs.map f) := by
  have hxs : (xs.map f).Pairwise fun r q => r.phase ≤ q.phase :=
    List.pairwise_of_forall_mem_list fun r hr q hq =>
      Nat.le_of_eq ((phase_of_mem h hr).trans (phase_of_mem h hq).symm)
  have hle : ∀ r ∈ rs, r.phase ≤ n := fun r hr => Nat.le_trans (hrs.le r hr) hk
  refine ⟨List.pairwise_append.mpr ⟨hrs.sorted, hxs, fun r hr q hq => ?_⟩, fun r hr => ?_⟩
  · rw [phase_of_mem h hq]
    exact hle r hr
  · rcases List.mem_append.mp hr with hr | hr
    · exact hle r hr
    · exact Nat.le_of_eq (phase_of_mem h hr)

end Phase

namespace Create
variable {c : Config} {author : UserId} {content : String} {l : Log} {s : Spread} {t : Trail}
  {taken : List UserId} {events : List Event}

theorem phase_upkeep (c : Config) (post : Post) (u : UserId) :
    (upkeep c post u).request.phase = 4 := by
  unfold upkeep
  cases c.maintenance <;> rfl

theorem phase_fanout {f : Fanout} {r : Request} (hr : r ∈ f.requests) : r.phase = 3 := by
  obtain ⟨w, -, hw⟩ := List.mem_filterMap.mp hr
  unfold Worker.request? at hw
  split at hw
  next => rw [← Option.some.inj hw, Request.phase]
  next => cases hw

theorem upTo_spread (author : UserId) (t : Trail) : UpTo 3 (t.spread author).made := by
  have hfirst : UpTo 2 [.userExists author, .save t.draft, .followers author] :=
    ⟨by simp [Request.phase], by simp [Request.phase]⟩
  exact hfirst.append (f := Fanout.Write.request t.post) (Nat.le_succ 2) (fun _ => rfl) t.writes

theorem upTo_upkeep (c : Config) (author : UserId) (t : Trail) (s : Spread)
    (taken upkept : List UserId) : UpTo 4 (t.upkeep c author s taken upkept).made :=
  (upTo_spread author t).append (Nat.le_succ 3) (phase_upkeep c t.post) taken

theorem upTo_announced (c : Config) (author : UserId) (t : Trail) (s : Spread)
    (upkept : List UserId) (event : Event) (accepted : List Event) :
    UpTo 5 (t.announced c author s upkept event accepted).made :=
  have hupkeep := upTo_upkeep c author t s (targets c t.followers s) upkept
  hupkeep.append (f := Request.publish) (Nat.le_succ 4) (fun _ => rfl) [event]

theorem Account.inOrder {stage : CreateStage} (h : Account c author content l stage) :
    l.made.Pairwise (fun r q => r.phase ≤ q.phase) ∧
      ∀ r ∈ l.made, ∀ q ∈ stage.requests c author, r.phase ≤ q.phase := by
  -- Once nothing is under way there is nothing to wait for.
  have idle {next : CreateStage} (hs : l.made.Pairwise fun r q => r.phase ≤ q.phase)
      (hr : next.requests c author = []) : l.made.Pairwise (fun r q => r.phase ≤ q.phase) ∧
        ∀ r ∈ l.made, ∀ q ∈ next.requests c author, r.phase ≤ q.phase :=
    ⟨hs, fun r _ q hq => by rw [hr] at hq; cases hq⟩
  cases h with
  | lookingUp => simp [CreateStage.requests]
  | dating => exact idle (by simp) rfl
  | recording hd => simp [CreateStage.requests, Request.phase]
  | unsaved hu hr =>
    refine idle ?_ rfl
    cases hu <;> simp [Request.phase]
  | undated => exact idle (by simp) rfl
  | resolving hd => simp [CreateStage.requests, Request.phase]
  | jammed hd hwrites => exact idle (upTo_spread ..).sorted rfl
  | spreading hd hh =>
    refine ⟨(upTo_spread ..).sorted, fun r hr q hq => ?_⟩
    rw [phase_fanout hq]
    exact (upTo_spread ..).le r hr
  | maintaining hd hs htaken hupkept =>
    refine ⟨(upTo_upkeep ..).sorted, fun r hr q hq => ?_⟩
    rw [phase_of_mem (phase_upkeep c _) hq]
    exact (upTo_upkeep ..).le r hr
  | naming hk => exact idle (upTo_upkeep ..).sorted rfl
  | @launched t s upkept attempts backoff correlation hk hp =>
    exact idle (upTo_upkeep c author t s _ upkept).sorted rfl
  | announcing hk hp =>
    refine ⟨(upTo_announced ..).sorted, fun r hr q hq => ?_⟩
    rw [List.mem_singleton.mp hq]
    exact (upTo_announced ..).le r hr
  | announced hk hp | unannounced hk hp hf => exact idle (upTo_announced ..).sorted rfl

/-- The requests of each phase. -/
structure ByPhase (c : Config) (author : UserId) (l : Log) (t : Trail) (taken : List UserId)
    (events : List Event) : Prop where
  save : l.made.filter (·.phase = 1) = [.save t.draft]
  followers : l.made.filter (·.phase = 2) = [.followers author]
  writes : l.made.filter (·.phase = 3) = t.writes.map (Fanout.Write.request t.post)
  upkeep : l.made.filter (·.phase = 4) = taken.map (fun u => (upkeep c t.post u).request)
  publish : l.made.filter (·.phase = 5) = events.map .publish

theorem Made.byPhase (h : Made c author content l t taken events) :
    ByPhase c author l t taken events := by
  have hmade (k : Nat) : l.made.filter (·.phase = k) =
      [Request.userExists author, .save t.draft, .followers author].filter (·.phase = k) ++
        (if 3 = k then t.writes.map (Fanout.Write.request t.post) else []) ++
        (if 4 = k then taken.map (fun u => (Create.upkeep c t.post u).request) else []) ++
        (if 5 = k then events.map .publish else []) := by
    have hwrites := filter_phase (f := Fanout.Write.request t.post) (fun _ => rfl) t.writes k
    have hupkeep := filter_phase (phase_upkeep c t.post) taken k
    have hpublish := filter_phase (f := Request.publish) (fun _ => rfl) events k
    rw [h.made, Trail.spread]
    simp only [List.filter_append, hwrites, hupkeep, hpublish]
  constructor <;> rw [hmade] <;> simp [Request.phase]

theorem Made.posts (h : Made c author content l t taken events) : l.posts = [t.post] :=
  congrArg (List.map _) h.saved

/-! ### What a request waits for -/

/-- A request among those of its phase. -/
theorem mem_phase {r : Request} {rs : List Request} {n : Nat} (hr : r ∈ l.made)
    (hp : r.phase = n) (h : l.made.filter (·.phase = n) = rs) : r ∈ rs := by
  rw [← h]
  exact List.mem_filter.mpr ⟨hr, decide_eq_true hp⟩

theorem Account.save {stage : CreateStage} (h : Account c author content l stage) {draft : Draft}
    (hr : .save draft ∈ l.made) : l.known ∧ Drafted author content draft := by
  rcases h.cases with hu | ⟨d, id, hd, rfl⟩ | ⟨t, taken, events, hm⟩
  · cases hu with
    | asked known => simp at hr
    | saving hd =>
      obtain rfl : draft = _ := by simpa using hr
      exact ⟨rfl, hd⟩
  · obtain rfl : draft = d := by simpa using hr
    exact ⟨rfl, hd⟩
  · cases List.mem_singleton.mp (mem_phase hr rfl hm.byPhase.save)
    exact ⟨hm.known, hm.drafted⟩

theorem Account.followers {stage : CreateStage} (h : Account c author content l stage)
    {u : UserId} (hr : .followers u ∈ l.made) : u = author ∧ ∃ p, l.posts = [p] := by
  rcases h.cases with hu | ⟨d, id, hd, rfl⟩ | ⟨t, taken, events, hm⟩
  · cases hu <;> simp at hr
  · exact ⟨by simpa using hr, _, rfl⟩
  · cases List.mem_singleton.mp (mem_phase hr rfl hm.byPhase.followers)
    exact ⟨rfl, _, hm.posts⟩

/-- Whoever asks for a write or more knows the followers. -/
theorem Account.of_late {stage : CreateStage} (h : Account c author content l stage) {r : Request}
    (hr : r ∈ l.made) (hp : 3 ≤ r.phase) :
    ∃ t taken events, Made c author content l t taken events := by
  rcases h.cases with hu | ⟨d, id, hd, rfl⟩ | hm
  · have hle : ∀ r ∈ l.made, r.phase ≤ 1 := by cases hu <;> simp [Request.phase]
    have := hle r hr
    omega
  · have hle : ∀ r ∈ [Request.userExists author, .save d, .followers author], r.phase ≤ 2 := by
      simp [Request.phase]
    have := hle r hr
    omega
  · exact hm

theorem Account.writes {stage : CreateStage} (h : Account c author content l stage) {r : Request}
    (hr : r ∈ l.made) (hp : r.phase = 3) :
    ∃ p named, l.posts = [p] ∧ l.named = some named ∧
      l.made.filter (·.phase = 3) = l.writes.map (Fanout.Write.request p) ∧
      l.writes.map (·.follower) <+: distinct named := by
  obtain ⟨t, taken, events, hm⟩ := h.of_late hr (Nat.le_of_eq hp.symm)
  refine ⟨t.post, t.named, hm.posts, hm.named, ?_, ?_⟩
  · rw [hm.writes, hm.byPhase.writes]
  · rw [hm.writes]
    exact hm.written

/-- The upkeep begins with the report of the fan-out. -/
theorem Account.upkeep {stage : CreateStage} (h : Account c author content l stage) {r : Request}
    (hr : r ∈ l.made) (hp : r.phase = 4) : l.report.isSome := by
  obtain ⟨t, taken, events, hm⟩ := h.of_late hr (by omega)
  have hmem := mem_phase hr hp hm.byPhase.upkeep
  have hbegun := hm.begun
  cases hreport : l.report with
  | some s => rfl
  | none =>
    rw [hreport] at hbegun
    rw [hbegun.1] at hmem
    cases hmem

theorem Account.report {stage : CreateStage} (h : Account c author content l stage)
    (hs : l.report = some s) :
    ∃ p named, l.posts = [p] ∧ l.named = some named ∧ Fanout.Settled (distinct named) l.writes s ∧
      (upkeepOf c p (distinct named) s).Nodup ∧
      l.made.filter (·.phase = 4) <+: upkeepOf c p (distinct named) s := by
  rcases h.cases with hu | ⟨d, id, hd, rfl⟩ | ⟨t, taken, events, hm⟩
  · cases hu <;> cases hs
  · cases hs
  · have hbegun := hm.begun
    rw [hs] at hbegun
    obtain ⟨hsettled, htaken⟩ := hbegun
    refine ⟨t.post, t.named, hm.posts, hm.named, hm.writes ▸ hsettled, ?_, ?_⟩
    · rw [← map_upkeep]
      refine (nodup_targets hsettled).map fun u v he => ?_
      have hu := upkept?_upkeep c t.post u
      rw [he, upkept?_upkeep] at hu
      exact (Option.some.inj hu).symm
    · rw [hm.byPhase.upkeep, ← map_upkeep]
      exact htaken.map _

/-- The announcement begins when the upkeep is over for all that the report tells of. -/
theorem Account.announced_of_upkept {stage : CreateStage} (h : Account c author content l stage)
    (ha : (∃ event, .publish event ∈ l.made) ∨ l.launched ≠ []) :
    ∃ p named s, l.posts = [p] ∧ l.named = some named ∧ l.report = some s ∧
      l.made.filter (·.phase = 4) = upkeepOf c p (distinct named) s := by
  obtain ⟨t, taken, events, hm⟩ : ∃ t taken events, Made c author content l t taken events := by
    rcases ha with ⟨event, he⟩ | hl
    · exact h.of_late he (Nat.le_add_left 3 2)
    · rcases h.cases with hu | ⟨d, id, hd, rfl⟩ | hm
      · cases hu <;> exact absurd rfl hl
      · exact absurd rfl hl
      · exact hm
  have hbegun : events ≠ [] ∨ l.launched ≠ [] := by
    refine ha.imp_left fun ⟨event, he⟩ hnil => ?_
    have hmem := mem_phase he rfl hm.byPhase.publish
    rw [hnil] at hmem
    cases hmem
  cases hreport : l.report with
  | some s =>
    refine ⟨t.post, t.named, s, hm.posts, hm.named, rfl, ?_⟩
    rw [hm.byPhase.upkeep, hm.closed hbegun s hreport]
    exact map_upkeep ..
  | none =>
    have hnone := hm.begun
    rw [hreport] at hnone
    exact absurd hbegun fun h => h.elim (fun h => h hnone.2.1) fun h => h hnone.2.2

theorem phase_requests_le {stage : CreateStage} {q : Request}
    (hq : q ∈ stage.requests c author) : q.phase ≤ 5 := by
  cases stage with
  | lookingUp | recording draft | resolving post | announcing post n s event =>
    rw [List.mem_singleton.mp hq]
    simp [Request.phase]
  | spreading followers f =>
    rw [phase_fanout hq]
    decide
  | maintaining post n s waiting running =>
    rw [phase_of_mem (phase_upkeep c post) hq]
    decide
  | dating | naming post n s | finished r | broken => cases hq

/-- Once the post is announced nothing but that is under way. -/
theorem Account.alone_of_announced {stage : CreateStage} (h : Account c author content l stage)
    (ha : (∃ event, .publish event ∈ l.made) ∨ l.launched ≠ []) {q : Request}
    (hq : q ∈ stage.requests c author) : q.phase = 5 := by
  rcases ha with ⟨event, he⟩ | hl
  · exact Nat.le_antisymm (phase_requests_le hq) (h.inOrder.2 _ he q hq)
  · cases h with
    | launched hk hp => cases hq
    | unsaved hu hr => cases hq
    | _ => exact absurd rfl hl

theorem Account.announced_of_finished {r : Except Failure PostId} {id : PostId}
    (h : Account c author content l (.finished r)) (hid : recordedId? r = some id) :
    (∃ event, .publish event ∈ l.made) ∨ l.launched ≠ [] := by
  cases h with
  | unsaved hu hr => cases hr.symm.trans hid
  | launched hk hp => exact .inr nofun
  | announced hk hp => exact .inl ⟨_, List.mem_append_right _ (List.mem_singleton_self _)⟩
  | unannounced hk hp hf => exact .inl ⟨_, List.mem_append_right _ (List.mem_singleton_self _)⟩

theorem published (c : Config) (author : UserId) (t : Trail) (s : Spread) (upkept : List UserId)
    (event : Event) (accepted : List Event) :
    (t.announced c author s upkept event accepted).made.filter (·.phase = 5) =
      [.publish event] := by
  have hnone : (t.upkeep c author s (targets c t.followers s) upkept).made.filter (·.phase = 5) =
      [] := by
    refine List.filter_eq_nil_iff.mpr fun r hr hp => ?_
    have hle := (upTo_upkeep c author t s _ upkept).le r hr
    rw [of_decide_eq_true hp] at hle
    contradiction
  show List.filter _ (_ ++ [_]) = _
  rw [List.filter_append, hnone]
  rfl

/-- A success that waited for the announcement. -/
theorem Account.strict {id : PostId} {cancelled : Bool}
    (h : Account c author content l (.finished (.ok id)))
    (hcut : Cut c l cancelled (.finished (.ok id))) (hp : c.publish = .strict) :
    ∃ draft named event, l.saved = [(draft, id)] ∧ l.named = some named ∧
      l.writes.map (·.follower) = distinct named ∧ (∀ x ∈ l.writes, x.reply.isSome) ∧
      l.accepted = [event] ∧ l.made.filter (·.phase = 5) = [.publish event] ∧
      event.post = .ofPost (draft.toPost id) := by
  cases h with
  | unsaved hu hr => cases hr
  | launched hk hb => cases hp.symm.trans hb
  | @announced t s upkept correlation hk hp =>
    have hnot : s.cancelled = false := Bool.eq_false_iff.mpr fun hc => by
      obtain ⟨id, hid⟩ := (hcut s rfl hc).2 hp
      cases hid
    refine ⟨t.draft, t.named, .announcing t.post correlation, rfl, rfl,
      hk.settled.each_of_not_cancelled hnot, hk.settled.answered, rfl, published .., rfl⟩

/-! ### Whose slices are touched -/

/-- A user's slice is as it was, and so is the user's version, unless there were as many versions as
the cache remembers; then it may have risen. -/
def Aside (u : UserId) (cache cache' : Cache.Store) : Prop :=
  cache'.slices.find? u = cache.slices.find? u ∧
    (cache'.versions.told u = cache.versions.told u ∨
      cache.config.users ≤ cache.versions.current.size ∧
        cache.versions.told u < cache'.versions.told u)

/-- A follower's upkeep is aside from everybody else. -/
theorem upkeep_of_ne (w : World) (now : Nat) {u v : UserId} (hv : v ≠ u) (post : Post) :
    Aside v w.cache (w.upkeep c now u post).cache := by
  have htold := @Cache.Versions.told_advance_of_ne w.cache.versions w.cache.config.users u v hv
  unfold World.upkeep
  cases c.maintenance with
  | invalidate => exact ⟨Cache.Store.find?_invalidate_of_ne w.cache hv, htold⟩
  | push =>
    refine ⟨Cache.Store.find?_push_of_ne w.cache now hv post c.cacheMaxEntries, ?_⟩
    rwa [Cache.Store.versions_push]

/-- A turn of a call, aside from those for whom it does nothing. -/
theorem aside_turn {before after : CreateStage} {m : Move} {w w' : World}
    (h : Account c author content l before) (hc : Course c author content w before m after w')
    {u : UserId} (hu : ∀ r ∈ l.made, r.upkept? ≠ some u) : Aside u w.cache w'.cache := by
  rcases Engine.cache_of_course hc with ⟨hcache, -⟩ | ⟨v, now, post, n, s, waiting, running, -, hv,
    rfl, rfl⟩
  · rw [hcache]
    exact ⟨rfl, .inl rfl⟩
  · cases h with
    | @maintaining t n s taken waiting running upkept hd hs htaken hupkept =>
      refine upkeep_of_ne w now (fun he => ?_) t.post
      have htake : v ∈ taken := hupkept.subset (List.mem_append_right _ hv)
      have hmade : (upkeep c t.post v).request ∈ (t.upkeep c author s taken upkept).made :=
        List.mem_append_right _ (List.mem_map_of_mem htake)
      refine hu _ hmade ?_
      rw [upkept?_upkeep, he]

theorem aside_of_run {ts : List Turn} {call : Create} (hw : 0 < c.bounds.workers)
    (h : Run c author content ts call) {u : UserId}
    (hu : ∀ r ∈ (log c author content ts).made, r.upkept? ≠ some u) :
    ∀ t ∈ ts, Aside u t.before.cache t.after.cache := by
  induction h with
  | start => exact fun t ht => absurd ht List.not_mem_nil
  | @turn ts call next m w w' hr hs ih =>
    obtain ⟨-, hc⟩ := course_of_run hr hs
    have hbefore : ∀ r ∈ (log c author content ts).made, r.upkept? ≠ some u := by
      rw [log_turn hs] at hu
      exact fun r hr => hu r (List.mem_append_left _ hr)
    intro t ht
    rcases List.mem_append.mp ht with ht | ht
    · exact ih hbefore t ht
    · rw [List.mem_singleton.mp ht]
      exact aside_turn (account_of_run hw hr) hc hbefore

/-! ### The order of requests -/

/-- The requests that a call has made, and what they waited for. -/
structure InOrder (c : Config) (author : UserId) (content : String) (ts : List Turn) (l : Log)
    (call : Create) : Prop where
  /-- Requests are made in the order of their phases. -/
  sorted : l.made.Pairwise fun r q => r.phase ≤ q.phase
  /-- None is made while one of an earlier phase has no answer. -/
  waited : ∀ r ∈ l.made, ∀ q ∈ call.underWay c, r.phase ≤ q.phase
  /-- What is saved is the author's content, which obeys the rule; the graph knows the author. -/
  save : ∀ draft, .save draft ∈ l.made → l.known ∧ Drafted author content draft
  /-- The followers are asked for when the post is recorded. -/
  followers : ∀ u, .followers u ∈ l.made → u = author ∧ ∃ p, l.posts = [p]
  /-- The post is written to followers that the graph has named, each once. -/
  writes : ∀ r ∈ l.made, r.phase = 3 → ∃ p named, l.posts = [p] ∧ l.named = some named ∧
    l.made.filter (·.phase = 3) = l.writes.map (Fanout.Write.request p) ∧
    l.writes.map (·.follower) <+: distinct named
  /-- Slices are brought up to date when the fan-out is over, as its report tells, each once. -/
  upkeep : ∀ r ∈ l.made, r.phase = 4 → l.report.isSome
  report : ∀ s, l.report = some s → ∃ p named, l.posts = [p] ∧ l.named = some named ∧
    Fanout.Settled (distinct named) l.writes s ∧ (upkeepOf c p (distinct named) s).Nodup ∧
    l.made.filter (·.phase = 4) <+: upkeepOf c p (distinct named) s
  /-- The post is announced when that is over for all of them. -/
  announced : (∃ event, .publish event ∈ l.made) ∨ l.launched ≠ [] →
    ∃ p named s, l.posts = [p] ∧ l.named = some named ∧ l.report = some s ∧
      l.made.filter (·.phase = 4) = upkeepOf c p (distinct named) s ∧
      ∀ q ∈ call.underWay c, q.phase = 5
  ended : ∀ r id, call.result? = some r → recordedId? r = some id →
    (∃ event, .publish event ∈ l.made) ∨ l.launched ≠ []
  /-- Whoever has no slice brought up to date is let be. -/
  others : ∀ u, (∀ r ∈ l.made, r.upkept? ≠ some u) → ∀ t ∈ ts, Aside u t.before.cache t.after.cache
  /-- A success that waited for the announcement is one of a post written to every follower, and
  announced once. -/
  strict : c.publish = .strict → ∀ id, call.result? = some (.ok id) →
    ∃ draft named event, l.saved = [(draft, id)] ∧ l.named = some named ∧
      l.writes.map (·.follower) = distinct named ∧ (∀ x ∈ l.writes, x.reply.isSome) ∧
      l.accepted = [event] ∧ l.made.filter (·.phase = 5) = [.publish event] ∧
      event.post = .ofPost (draft.toPost id)

/-- **A call asks its peers in order.** Whatever they answer, however long they take and whenever
the caller cancels: the save is asked for when the graph knows the author and the content obeys the
rule, the followers when the post is saved, the writes when the graph has named the followers, the
upkeep of slices when all writes have ended, and the announcement, or its launch in the background,
when all of the upkeep has. Each follower that was dispatched has its slice dropped, or each that
was reached has the post put into it, once; nobody else's slice changes, nor anybody else's version
as long as the cache can remember them all. A success that waited for the announcement is one of a
post that every follower was written, and that was announced as it is recorded, once. -/
theorem requests_in_order {ts : List Turn} {cancelled : Bool} {call : Create}
    (hw : 0 < c.bounds.workers) (h : Watched c author content ts cancelled call) :
    InOrder c author content ts (log c author content ts) call := by
  have ha := account_of_run hw h.run
  have hauthor : call.author = author := (tells_of_run h.run).1
  have hwaiting : call.underWay c = call.stage.requests c author := by
    rw [underWay_eq, hauthor]
  refine ⟨ha.inOrder.1, ?_, fun draft hr => ha.save hr, fun u hr => ha.followers hr,
    fun r hr hp => ha.writes hr hp, fun r hr hp => ha.upkeep hr hp, fun s hs => ha.report hs,
    fun hp => ?_, fun r id hr hid => ?_, fun u hu => aside_of_run hw h.run hu, fun hp id hr => ?_⟩
  · rw [hwaiting]
    exact ha.inOrder.2
  · obtain ⟨p, named, s, hposts, hnamed, hs, hall⟩ := ha.announced_of_upkept hp
    refine ⟨p, named, s, hposts, hnamed, hs, hall, fun q hq => ?_⟩
    rw [hwaiting] at hq
    exact ha.alone_of_announced hp hq
  · have hfinished := stage_of_result hr ▸ ha
    exact hfinished.announced_of_finished hid
  · have hstage := stage_of_result hr
    have hfinished := hstage ▸ ha
    exact hfinished.strict (hstage ▸ cut_of_watched hw h) hp

/-- The slice of a post's one follower is dropped, and the post not announced yet. -/
theorem requests_in_order_of_upkept :
    let c : Config := ⟨50, 100, 2000, 1000, .invalidate, .strict, ⟨50, 100⟩⟩
    ∃ ts call, Watched c ⟨"alice"⟩ "hello" ts false call ∧
      (log c ⟨"alice"⟩ "hello" ts).report = some ⟨1, [⟨"bob"⟩], 0, false⟩ ∧
      InOrder c ⟨"alice"⟩ "hello" ts (log c ⟨"alice"⟩ "hello" ts) call := by
  intro c
  obtain ⟨ts, t, -, -, -, upkept, -, hs⟩ := watched_upkept (.create .standard)
  exact ⟨_, _, upkept, hs, requests_in_order (by decide) upkept⟩

theorem phase_of_upkept? {r : Request} {u : UserId} (h : r.upkept? = some u) : r.phase = 4 := by
  cases r with
  | cachePush | cacheInvalidate => rfl
  | _ => cases h

/-- It is not so that a call leaves the versions of all others: where the cache remembers a single
version, and has forgotten another, the upkeep of a follower lifts the version of a third. -/
theorem others_not_always_untouched :
    ¬∀ (c : Config) (author : UserId) (content : String) (ts : List Turn) (cancelled : Bool)
      (call : Create), 0 < c.bounds.workers → Watched c author content ts cancelled call →
      ∀ u, (∀ r ∈ (log c author content ts).made, r.upkept? ≠ some u) → ∀ t ∈ ts,
        t.after.cache.slices.find? u = t.before.cache.slices.find? u ∧
          t.after.cache.versions.told u = t.before.cache.versions.told u := by
  intro hall
  let c : Config := ⟨50, 100, 2000, 1000, .invalidate, .strict, ⟨50, 100⟩⟩
  let cache := (Cache.Store.create ⟨1, 100, none⟩).invalidate ⟨"carol"⟩
  obtain ⟨ts, t, hbefore, hafter, -, upkept, hnamed, hs⟩ := watched_upkept cache
  have hothers : ∀ r ∈ (log c ⟨"alice"⟩ "hello" (ts ++ [t])).made, r.upkept? ≠ some ⟨"dave"⟩ := by
    intro r hr hu
    obtain ⟨p, named, -, hn, -, -, hprefix⟩ := (account_of_run (by decide) upkept.run).report hs
    cases hnamed.symm.trans hn
    have hmem := hprefix.subset (mem_phase hr (phase_of_upkept? hu) rfl)
    obtain rfl : r = .cacheInvalidate ⟨"bob"⟩ := List.mem_singleton.mp hmem
    exact absurd hu (by decide)
  have hkept := (hall c _ _ _ _ _ (by decide) upkept _ hothers t
    (List.mem_append_right _ (List.mem_singleton_self t))).2
  rw [hbefore, hafter] at hkept
  exact absurd hkept (by decide)

end Create
end Timelines.Service
