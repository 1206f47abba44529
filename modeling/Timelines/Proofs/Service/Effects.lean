import Timelines.Proofs.Service.Conservation
import Timelines.Proofs.Service.Engine

/-! What a step of a call that creates a post does to the store, and what it leaves to be done.

The stage of a call tells how far its post has come: in no timeline, in those of the followers
reached, or in those of the followers whose slices are to show it (`CreateStage.Sound`). A post that
is in a timeline is awaited there until its upkeep is over, and by no other step does it cease to be
(`Effect.awaited`). -/
namespace Timelines.Service
open Store (Memory)

namespace CreateStage

/-- What a stage tells of the store. -/
def Sound (c : Config) (store : Memory) : CreateStage → Prop
  | .resolving post => post ∈ store.posts ∧ ∀ u, post ∉ store.timeline u
  | .spreading followers f =>
    f.post ∈ store.posts ∧ (∃ ws, Fanout.History c.bounds f.post followers ws f) ∧
      ∀ u, f.post ∈ store.timeline u ↔ u ∈ f.workers.flatMap (·.delivered)
  | .maintaining post _ _ waiting running =>
    post ∈ store.posts ∧
      (c.maintenance = .push → ∀ u, u ∈ waiting ∨ u ∈ running → post ∈ store.timeline u)
  | _ => True

/-- A stage tells the same of a store with more posts, and with the same rows of its own post. -/
theorem Sound.mono {c : Config} {store store' : Memory} {s : CreateStage} (h : s.Sound c store)
    (hposts : ∀ p ∈ store.posts, p ∈ store'.posts)
    (hrows : ∀ p, s.post? = some p → ∀ u, p ∈ store'.timeline u ↔ p ∈ store.timeline u) :
    s.Sound c store' := by
  cases s with
  | resolving post => exact ⟨hposts _ h.1, fun u hu => h.2 u ((hrows post rfl u).mp hu)⟩
  | spreading followers f =>
    exact ⟨hposts _ h.1, h.2.1, fun u => (hrows f.post rfl u).trans (h.2.2 u)⟩
  | maintaining post n spread waiting running =>
    exact ⟨hposts _ h.1, fun hc u hu => (hrows post rfl u).mpr (h.2 hc u hu)⟩
  | _ => trivial

end CreateStage

/-- What a step of a call does to the store. -/
structure Effect (c : Config) (store : Memory) (s : CreateStage) (m : Create.Move)
    (s' : CreateStage) (store' : Memory) : Prop where
  stored : store'.Sound
  posts : ∀ p ∈ store.posts, p ∈ store'.posts
  rows : ∀ u, ∀ p ∈ store.timeline u, p ∈ store'.timeline u
  /-- Only the post at work comes into timelines. -/
  others : ∀ p, s.post? ≠ some p → ∀ u, p ∈ store'.timeline u → p ∈ store.timeline u
  /-- The post at work stays, or is a new one. -/
  work : ∀ p, s'.post? = some p → s.post? = some p ∨ ∀ q ∈ store.posts, q.id ≠ p.id
  /-- A post in a timeline is awaited there until its upkeep is over. -/
  awaited : ∀ u p, p ∈ store'.timeline u → ¬s'.awaits u p →
    p ∈ store.timeline u ∧ ¬s.awaits u p ∨ s.post? = some p ∧ ∃ reply, m = .maintained u reply
  sound : s'.Sound c store'

variable {c : Config} {store store' : Memory} {s s' : CreateStage} {m : Create.Move}

/-- A step that leaves the store as it is. -/
theorem Effect.still (hm : store.Sound) (hs : s'.Sound c store)
    (hwork : ∀ p, s'.post? = some p → s.post? = some p)
    (hawaited : ∀ u p, p ∈ store.timeline u → s.awaits u p →
      s'.awaits u p ∨ ∃ reply, m = .maintained u reply) : Effect c store s m s' store where
  stored := hm
  posts := fun _ hp => hp
  rows := fun _ _ hp => hp
  others := fun _ _ _ hp => hp
  work := fun p hp => .inl (hwork p hp)
  awaited := by
    intro u p hp hn
    by_cases ha : s.awaits u p
    · exact .inr ⟨CreateStage.post?_of_awaits ha, (hawaited u p hp ha).resolve_left hn⟩
    · exact .inl ⟨hp, ha⟩
  sound := hs

/-- A step of a call that is not at work on a post, nor will be. -/
theorem Effect.idle (hm : store.Sound) (hs : s'.Sound c store) (hb : s.post? = none)
    (ha : s'.post? = none) : Effect c store s m s' store := by
  refine .still hm hs (fun p hp => ?_) fun u p _ hp => ?_
  · rw [ha] at hp
    cases hp
  · have := CreateStage.post?_of_awaits hp
    rw [hb] at this
    cases this

/-! ### The fan-out -/

/-- The report of a fan-out that is over names whom its workers have reached. -/
theorem mem_targets {followers : List UserId} {f : Fanout} {ws : List Fanout.Write} {u : UserId}
    (hh : Fanout.History c.bounds f.post followers ws f) (hf : f.finished) :
    (u ∈ f.workers.flatMap (·.delivered) → u ∈ Create.targets c followers f.spread) ∧
      (c.maintenance = .push → u ∈ Create.targets c followers f.spread →
        u ∈ f.workers.flatMap (·.delivered)) := by
  have hsound := Fanout.sound_of_history hh
  have hd := (Fanout.spread_of_finished hsound.placed hf).1
  unfold Create.targets
  cases c.maintenance with
  | invalidate => exact ⟨fun hu => hsound.mem_take_of_delivered hu, nofun⟩
  | push => exact ⟨hd.mem_iff.mpr, fun _ => hd.mem_iff.mp⟩

/-- Whatever stage follows a step of the fan-out, it is at work on the post, and awaits it in all
timelines that hold it. -/
theorem spreadStage_spec {followers : List UserId} {f : Fanout} {ws : List Fanout.Write}
    (hp : f.post ∈ store.posts) (hh : Fanout.History c.bounds f.post followers ws f)
    (hd : ∀ u, f.post ∈ store.timeline u ↔ u ∈ f.workers.flatMap (·.delivered)) :
    (Create.spreadStage c followers f).Sound c store ∧
      (∀ p, (Create.spreadStage c followers f).post? = some p → f.post = p) ∧
      ∀ u, f.post ∈ store.timeline u → (Create.spreadStage c followers f).awaits u f.post := by
  unfold Create.spreadStage
  split
  next hf =>
    have ht (u : UserId) := mem_targets (u := u) hh hf
    unfold Create.afterSpread
    split
    next hnil =>
      refine ⟨trivial, nofun, fun u hu => ?_⟩
      have := (ht u).1 ((hd u).mp hu)
      rw [hnil] at this
      cases this
    next =>
      refine ⟨⟨hp, fun hc u hu => ?_⟩, fun p h => Option.some.inj h, fun u hu => ⟨rfl, .inl ?_⟩⟩
      · exact (hd u).mpr ((ht u).2 hc (hu.resolve_right List.not_mem_nil))
      · exact (ht u).1 ((hd u).mp hu)
  next => exact ⟨⟨hp, ⟨ws, hh⟩, hd⟩, fun p h => Option.some.inj h, fun u _ => rfl⟩

/-! ### The steps -/

/-- A step of the fan-out, with whom its workers have reached by then. -/
theorem effect_of_spread {followers : List UserId} {f f' : Fanout} {move : Fanout.Move}
    (h : (CreateStage.spreading followers f).Sound c store) (hf : f.step? move = some f')
    (hm' : store'.Sound) (hposts : store'.posts = store.posts)
    (hmem : ∀ u p, p ∈ store'.timeline u ↔ p ∈ store.timeline u ∨
      p = f.post ∧ ∃ n, move = .wrote n (.ok ()) ∧
        Fanout.activity? f.workers n = some (.writing u)) :
    Effect c store (.spreading followers f) (.spread move) (Create.spreadStage c followers f')
      store' := by
  obtain ⟨hp, ⟨ws, hh⟩, hd⟩ := h
  have hpost := Fanout.post_of_step hf
  have hh' : Fanout.History c.bounds f'.post followers (f.noted ws move) f' := by
    rw [hpost]
    exact .move hh hf
  have hp' : f'.post ∈ store'.posts := by rwa [hpost, hposts]
  have hd' (u : UserId) : f'.post ∈ store'.timeline u ↔ u ∈ f'.workers.flatMap (·.delivered) := by
    rw [hpost, hmem, Fanout.mem_delivered_of_step (Fanout.course_of_step hf), hd]
    simp
  obtain ⟨hsound, hwork, hawaits⟩ := spreadStage_spec hp' hh' hd'
  rw [hpost] at hwork hawaits
  refine ⟨hm', fun p hp => hposts ▸ hp, fun u p hp => (hmem u p).mpr (.inl hp), ?_, ?_, ?_, hsound⟩
  · intro p hne u hu
    exact ((hmem u p).mp hu).resolve_right fun h => hne (congrArg some h.1.symm)
  · exact fun p hs => .inl (congrArg some (hwork p hs))
  · intro u p hu hn
    refine .inl ⟨((hmem u p).mp hu).resolve_right fun h => ?_, fun ha => ?_⟩
    · exact hn (h.1 ▸ hawaits u (h.1 ▸ hu))
    · exact hn (ha ▸ hawaits u (ha ▸ hu))

/-- A new post is in no timeline. -/
theorem effect_of_recorded {draft : Draft} {post : Post} {reply : Except StoreError PostId}
    (hm : store.Sound) (hid : ∀ q ∈ store.posts, q.id ≠ post.id) :
    Effect c store (.recording draft) (.recorded reply) (.resolving post)
      { store with posts := store.posts ++ [post] } where
  stored := hm.record hid
  posts := fun _ hp => List.mem_append_left _ hp
  rows := fun _ _ hp => hp
  others := fun _ _ _ hp => hp
  work := by
    rintro p ⟨⟩
    exact .inr hid
  awaited := fun u p hp _ => .inl ⟨hp, id⟩
  sound := ⟨List.mem_append_right _ (List.mem_singleton_self _),
    fun u hu => hid post (hm.recorded u post hu) rfl⟩

/-- A post whose followers are known is in no timeline yet. -/
theorem effect_of_resolved {post : Post} {reply : Except GraphError (List UserId)}
    (hm : store.Sound) (h : (CreateStage.resolving post).Sound c store) (followers : List UserId) :
    Effect c store (.resolving post) (.resolved reply) (Create.afterResolving c post followers)
      store := by
  have hawaited {s' : CreateStage} (u : UserId) (p : Post) (hp : p ∈ store.timeline u)
      (ha : (CreateStage.resolving post).awaits u p) :
      s'.awaits u p ∨ ∃ reply', Create.Move.resolved reply = .maintained u reply' :=
    absurd hp (ha ▸ h.2 u)
  unfold Create.afterResolving
  split
  next => exact .still hm trivial nofun hawaited
  next =>
    split
    next => exact .still hm trivial nofun hawaited
    next =>
      refine .still hm ⟨h.1, ⟨[], .start⟩, fun u => ?_⟩ (fun p hp => hp) hawaited
      have hnone : u ∉ (Fanout.start c.bounds post followers).workers.flatMap (·.delivered) := by
        intro hu
        have hu := (Fanout.accounted_start c.bounds post followers).reached.mem_iff.mp hu
        cases hu
      exact ⟨fun hu => absurd hu (h.2 u), fun hu => absurd hu hnone⟩

theorem awaits_upkeepStage (post : Post) (n : Nat) (spread : Spread) (waiting running : List UserId)
    (u : UserId) (p : Post) :
    (Create.upkeepStage post n spread waiting running).awaits u p ↔
      post = p ∧ (u ∈ waiting ∨ u ∈ running) := by
  unfold Create.upkeepStage
  split
  · simp [CreateStage.awaits]
  · exact Iff.rfl

/-- The end of a follower's upkeep, whether it failed or not. -/
theorem effect_of_upkeep {post : Post} {n : Nat} {spread : Spread} {waiting running : List UserId}
    {u : UserId} (hm : store.Sound)
    (h : (CreateStage.maintaining post n spread waiting running).Sound c store)
    (reply : Except CacheError Unit) :
    Effect c store (.maintaining post n spread waiting running) (.maintained u reply)
      (Create.upkeepStage post n spread waiting (running.erase u)) store := by
  refine .still hm ?_ (fun p hp => ?_) fun v p _ ha => ?_
  · unfold Create.upkeepStage
    split
    next => trivial
    next => exact ⟨h.1, fun hc v hv => h.2 hc v (hv.imp_right List.mem_of_mem_erase)⟩
  · unfold Create.upkeepStage at hp
    split at hp
    next => cases hp
    next => exact hp
  · by_cases hv : v = u
    · exact .inr ⟨reply, by rw [hv]⟩
    · left
      rw [awaits_upkeepStage]
      exact ⟨ha.1, ha.2.imp_right (List.mem_erase_of_ne hv).mpr⟩

/-- What the steps of a call do to the store. -/
theorem effect_of_course {author : UserId} {content : String} {w w' : World}
    (hm : w.store.Sound) (hs : s.Sound c w.store) (h : Create.Course c author content w s m s' w') :
    Effect c w.store s m s' w'.store := by
  cases h with
  | known => exact .idle hm trivial rfl rfl
  | unknown => exact .idle hm trivial rfl rfl
  | notLookedUp e => exact .idle hm trivial rfl rfl
  | dated hd => exact .idle hm trivial rfl rfl
  | invalid hv => exact .idle hm trivial rfl rfl
  | undated => exact .idle hm trivial rfl rfl
  | recorded draft hid => exact effect_of_recorded hm hid
  | notRecorded draft e => exact .idle hm trivial rfl rfl
  | resolved post followers => exact effect_of_resolved hm hs _
  | notResolved post e => exact effect_of_resolved hm hs _
  | @spread followers f f' move hf hmove =>
    refine effect_of_spread hs hf hm rfl fun u p => ?_
    simp [hmove]
  | @wrote followers f f' n a u ha hu hf =>
    refine effect_of_spread hs hf (hm.write hs.1 u) (Memory.posts_write ..) fun v p => ?_
    have hact : Fanout.activity? f.workers n = some (.writing u) := by
      rw [Fanout.activity?_eq ha, hu]
    show p ∈ (w.store.write u f.post).timeline v ↔ _
    rw [hm.mem_timeline_write hs.1]
    simp [hact, eq_comm, and_comm]
  | notWritten followers hf =>
    refine effect_of_spread hs hf hm rfl fun u p => ?_
    simp
  | maintain post n spread u waiting running hlt =>
    have hmem (v : UserId) :
        (v ∈ waiting ∨ v ∈ running ++ [u]) ↔ v ∈ u :: waiting ∨ v ∈ running := by
      rw [List.mem_append, List.mem_singleton, List.mem_cons]
      tauto
    exact .still hm ⟨hs.1, fun hc v hv => hs.2 hc v ((hmem v).mp hv)⟩ (fun p hp => hp)
      fun v p _ ha => .inl ⟨ha.1, (hmem v).mpr ha.2⟩
  | @maintained post n spread waiting running u now hu =>
    rw [World.store_upkeep]
    exact effect_of_upkeep hm hs _
  | notMaintained post n spread waiting e hu => exact effect_of_upkeep hm hs _
  | named post n spread correlation hp => exact .idle hm trivial rfl rfl
  | launched post n spread correlation hp => exact .idle hm trivial rfl rfl
  | announced post n spread event => exact .idle hm trivial rfl rfl
  | notAnnounced post n spread event e => exact .idle hm trivial rfl rfl
  | cancelledLookingUp => exact .idle hm trivial rfl rfl
  | cancelledRecording draft => exact .idle hm trivial rfl rfl
  | cancelledAnnouncing post n spread event => exact .idle hm trivial rfl rfl

end Timelines.Service
