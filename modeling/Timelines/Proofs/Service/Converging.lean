import Timelines.Proofs.Cache.Pushes
import Timelines.Proofs.Service.Rereading

/-! Posts come to a follower's slice in any order.

Calls that create posts push them to the slices of the followers, each call in its own time.
`pushes_converge`: it does not matter who comes first. A slice that is there all the time shows the
newest of the posts that have come, as if all had been sorted at once. -/
namespace Timelines.Service
open Cache (pushed)

namespace Create

/-- A follower's slice is brought up to date for one call, and next for another. -/
def InTurn (c : Config) (u : UserId) (a b : Create) (w w' : World) : Prop :=
  ∃ a' b' between, (machine c).Step a w (.maintained u (.ok ())) a' between ∧
    (machine c).Step b between (.maintained u (.ok ())) b' w'

section InTurn
variable {c : Config} {u : UserId} {a b : Create} {w w' : World}

theorem upkeep_of_step {call next : Create}
    (h : (machine c).Step call w (.maintained u (.ok ())) next w') :
    ∃ post now, call.stage.post? = some post ∧ w' = w.upkeep c now u post := by
  obtain ⟨-, -, hc⟩ := course_of_step h
  rcases Engine.cache_of_course hc with ⟨-, hm⟩ | ⟨v, now, post, n, s, waiting, running, hm, -, hs,
    rfl⟩
  · exact absurd rfl (hm u)
  · cases hm
    exact ⟨post, now, hs ▸ rfl, rfl⟩

/-- Two calls that leave the follower a slice have pushed their posts into the one there was. -/
theorem pushing_of_inTurn (h : InTurn c u a b w w') (hfound : (w'.cache.slices.find? u).isSome) :
    ∃ p q os, a.stage.post? = some p ∧ b.stage.post? = some q ∧ pushed u os = [p, q] ∧
      w'.cache = w.cache.run os ∧ w.cache.Pushing u c.cacheMaxEntries os ∧
      (w.cache.slices.find? u).isSome := by
  obtain ⟨_, _, between, ha, hb⟩ := h
  obtain ⟨p, now, hp, rfl⟩ := upkeep_of_step ha
  obtain ⟨q, later, hq, rfl⟩ := upkeep_of_step hb
  refine ⟨p, q, [(now, .push u p c.cacheMaxEntries), (later, .push u q c.cacheMaxEntries)], hp, hq,
    ?_, ?_⟩
  · simp only [pushed, Cache.Operation.pushed?, List.filterMap_cons, if_true, List.filterMap_nil]
  obtain ⟨slice, hslice⟩ := Option.isSome_iff_exists.mp hfound
  cases hc : c.maintenance with
  | invalidate =>
    simp only [World.upkeep, hc] at hslice
    exact absurd rfl (Cache.Store.find?_invalidate hslice).1
  | push =>
    simp only [World.upkeep, hc] at hslice ⊢
    obtain ⟨middle, hmiddle, hlive⟩ := Cache.Store.live_of_push hslice
    obtain ⟨old, hold, hyoung⟩ := Cache.Store.live_of_push hmiddle
    have hfirst := Cache.Store.spares_of_yields (o := .push u p c.cacheMaxEntries) hold rfl
      fun _ _ _ => hyoung
    have hsecond := Cache.Store.spares_of_yields (o := .push u q c.cacheMaxEntries) hmiddle rfl
      fun _ _ _ => hlive
    have hbound (r : Post) : ∀ p bound, Cache.Operation.push u r c.cacheMaxEntries =
        .push u p bound → bound = c.cacheMaxEntries := by
      rintro _ _ ⟨⟩
      rfl
    exact ⟨rfl, .cons hfirst (hbound p) (.cons hsecond (hbound q) (.nil _)), hold ▸ rfl⟩

/-- Two calls leave a follower the same slice, whichever of them comes first. -/
theorem slice_congr_of_inTurn {w₁ w₂ : World} {slice : Cache.Slice}
    (hs : w.cache.slices.find? u = some slice)
    (hsorted : slice.posts.Pairwise fun a b => a.notOlder b)
    (hids : slice.posts.Pairwise (·.id ≠ ·.id))
    (hlength : slice.posts.length ≤ w.cache.kept c.cacheMaxEntries)
    (hknown : ∀ p q, a.stage.post? = some p → b.stage.post? = some q →
      Post.KnownById (slice.posts ++ [p, q]))
    (hab : InTurn c u a b w w₁) (hba : InTurn c u b a w w₂)
    (hfound : (w₁.cache.slices.find? u).isSome) (hfound' : (w₂.cache.slices.find? u).isSome) :
    w₁.cache.slices.find? u = w₂.cache.slices.find? u := by
  obtain ⟨p, q, os, hp, hq, hpushed, hrun, hos, -⟩ := pushing_of_inTurn hab hfound
  obtain ⟨q', p', os', hq', hp', hpushed', hrun', hos', -⟩ := pushing_of_inTurn hba hfound'
  cases hp.symm.trans hp'
  cases hq.symm.trans hq'
  rw [hrun, hrun']
  refine Cache.Store.slice_congr_of_pushing hos hos' hs hsorted hids hlength
    (hpushed ▸ hknown p q hp hq) fun r => ?_
  rw [hpushed, hpushed', List.mem_pair, List.mem_pair, or_comm]

end InTurn
end Create

/-- **Pushes converge, whatever their order.** After any operations on a cache, take a slice whose
posts have ids of their own and are no more than pushes are told to keep.

* As long as the slice is there and is not stored anew, it shows the newest of the posts that were
  in it and of those that have come, as many as are kept, and keeps the time it was stored.
* So it comes to be the same slice after any operations that put the same posts into it.
* So do the slices that two calls leave which create posts, whichever of them is first to push its
  post, unless one of them finds the slice too old. -/
theorem pushes_converge (config : Cache.Config) (before : List (Nat × Cache.Operation))
    (maxLength : Nat) {u : UserId} {slice : Cache.Slice}
    (hs : ((Cache.Store.create config).run before).slices.find? u = some slice)
    (hids : slice.posts.Pairwise (·.id ≠ ·.id))
    (hlength : slice.posts.length ≤ max 1 (min maxLength config.maxEntries)) :
    let s := (Cache.Store.create config).run before
    (∀ os, s.Pushing u maxLength os → Post.KnownById (slice.posts ++ pushed u os) →
      (s.run os).slices.find? u =
        some ⟨(Post.newestFirst (slice.posts ++ pushed u os).dedup).take
          (max 1 (min maxLength config.maxEntries)), slice.storedAt⟩) ∧
    (∀ os os', s.Pushing u maxLength os → s.Pushing u maxLength os' →
      Post.KnownById (slice.posts ++ pushed u os) → (∀ p, p ∈ pushed u os ↔ p ∈ pushed u os') →
        (s.run os).slices.find? u = (s.run os').slices.find? u) ∧
    ∀ (c : Config) (w w₁ w₂ : World) (a b : Create), c.cacheMaxEntries = maxLength →
      w.cache = s → (∀ p q, a.stage.post? = some p → b.stage.post? = some q →
        Post.KnownById (slice.posts ++ [p, q])) →
      Create.InTurn c u a b w w₁ → Create.InTurn c u b a w w₂ →
      (w₁.cache.slices.find? u).isSome → (w₂.cache.slices.find? u).isSome →
        w₁.cache.slices.find? u = w₂.cache.slices.find? u := by
  intro s
  obtain ⟨hconfig, hwell, -⟩ := Cache.Store.wellformed_run config before
  have hsorted := hwell.sorted u slice hs
  have hkept : s.kept maxLength = max 1 (min maxLength config.maxEntries) := by
    rw [Cache.Store.kept, show s.config = config from hconfig, Cache.Config.entries]
    omega
  rw [← hkept] at hlength ⊢
  refine ⟨fun os hos hknown => ?_, fun os os' hos hos' hknown hsame => ?_, ?_⟩
  · exact Cache.Store.slice_of_pushing hos hs hsorted hids hlength hknown
  · exact Cache.Store.slice_congr_of_pushing hos hos' hs hsorted hids hlength hknown hsame
  · rintro c w w₁ w₂ a b rfl hw hknown hab hba hfound hfound'
    rw [← hw] at hlength
    exact Create.slice_congr_of_inTurn (hw ▸ hs) hsorted hids hlength hknown hab hba hfound hfound'

/-- A slice of two posts keeps two. Of the posts of the same instant that come one drops out and
comes again, in vain. -/
theorem pushes_converge_of_dropped :
    let bob : UserId := ⟨"bob"⟩
    let p : Nat → Post := fun id => { (default : Post) with id := ⟨.ofNat id⟩ }
    let s := (Cache.Store.create ⟨10, 2, none⟩).run [(0, .set bob [p 1, p 3])]
    let os : List (Nat × Cache.Operation) :=
      [(1, .push bob (p 2) 5), (2, .invalidate ⟨"carol"⟩), (3, .push bob (p 4) 5),
        (4, .push bob (p 2) 5)]
    let os' : List (Nat × Cache.Operation) := [(1, .push bob (p 4) 5), (2, .push bob (p 2) 5)]
    let c : Config := ⟨50, 5, 2000, 1000, .push, .strict, ⟨50, 100⟩⟩
    let w : World := ⟨⟨[], []⟩, s⟩
    let call (id : Nat) : Create := ⟨⟨"alice"⟩, "", .maintaining (p id) 1 default [] [bob]⟩
    (s.run os).slices.find? bob = some ⟨[p 4, p 3], 0⟩ ∧
      (s.run os).slices.find? bob = (s.run os').slices.find? bob ∧
      ∃ w₁ w₂, Create.InTurn c bob (call 2) (call 4) w w₁ ∧
        Create.InTurn c bob (call 4) (call 2) w w₂ ∧
        w₁.cache.slices.find? bob = w₂.cache.slices.find? bob := by
  intro bob p s os os' c w call
  have hnewest : Post.newestFirst [p 1, p 3] = [p 3, p 1] :=
    Post.newestFirst_of_perm (by decide) (by decide)
  have hslices : s.slices = ⟨[(bob, ⟨[p 3, p 1], 0⟩)]⟩ := by
    simp only [s, Cache.Store.run, Cache.Store.after, Cache.Store.store, hnewest]
    rfl
  have hstore : s = ⟨⟨10, 2, none⟩, .start, ⟨[(bob, ⟨[p 3, p 1], 0⟩)]⟩, ⟨0, 0, 0⟩⟩ :=
    congrArg (fun slices => Cache.Store.mk _ _ slices _) hslices
  have hs : s.slices.find? bob = some ⟨[p 3, p 1], 0⟩ := by
    rw [hstore]
    rfl
  obtain ⟨hrun, hsame, hturn⟩ := pushes_converge ⟨10, 2, none⟩ [(0, .set bob [p 1, p 3])] 5 hs
    (by decide) (by decide)
  have hos : s.Pushing bob 5 os :=
    Cache.Store.pushing_of_yields hs (by decide) fun o ho q bound hq => ⟨by grind, rfl⟩
  have hos' : s.Pushing bob 5 os' :=
    Cache.Store.pushing_of_yields hs (by decide) fun o ho q bound hq => ⟨by grind, rfl⟩
  have hknown : Post.KnownById ([p 3, p 1] ++ pushed bob os) := by
    unfold Post.KnownById
    decide
  refine ⟨(hrun os hos hknown).trans ?_, hsame os os' hos hos' hknown ?_, ?_⟩
  · have hunion : Post.newestFirst ([p 3, p 1] ++ pushed bob os).dedup = [p 4, p 3, p 2, p 1] :=
      Post.newestFirst_of_perm (by decide) (by decide)
    rw [hunion]
    rfl
  · simp [pushed, os, os', or_comm, Cache.Operation.pushed?]
  · have inTurn (i j : Nat) : Create.InTurn c bob (call i) (call j) w
        ⟨w.store, (s.push 1 bob (p i) 5).push 2 bob (p j) 5⟩ :=
      ⟨_, _, ⟨w.store, s.push 1 bob (p i) 5⟩,
        @Machine.Step.answered _ _ _ _ _ (Create.upkeep c (p i) bob) 1 (.ok ()) _ _
          (List.mem_cons_self ..) rfl rfl,
        @Machine.Step.answered _ _ _ _ _ (Create.upkeep c (p j) bob) 2 (.ok ()) _ _
          (List.mem_cons_self ..) rfl rfl⟩
    refine ⟨_, _, inTurn 2 4, inTurn 4 2, hturn c w _ _ (call 2) (call 4) rfl rfl ?_ (inTurn 2 4)
      (inTurn 4 2) ?_ ?_⟩
    · rintro _ _ ⟨⟩ ⟨⟩
      unfold Post.KnownById
      decide
    · rw [hstore]
      decide
    · rw [hstore]
      decide

/-- In every state that an engine can reach, its calls push their posts in any order. -/
theorem Engine.slice_congr_of_inTurn {c : Config} {e : Engine} (h : Reachable c e) {a b : Create}
    (ha : a ∈ e.creates) (hb : b ∈ e.creates) {u : UserId} {w₁ w₂ : World}
    (hab : Create.InTurn c u a b e.world w₁) (hba : Create.InTurn c u b a e.world w₂)
    (hfound : (w₁.cache.slices.find? u).isSome) (hfound' : (w₂.cache.slices.find? u).isSome) :
    w₁.cache.slices.find? u = w₂.cache.slices.find? u := by
  have hsound := sound_of_reachable h
  obtain ⟨-, -, -, -, -, -, -, -, hsome⟩ := Create.pushing_of_inTurn hab hfound
  obtain ⟨slice, hs⟩ := Option.isSome_iff_exists.mp hsome
  have hcovers := hsound.slices u slice hs
  have hslice : ∀ p ∈ slice.posts, p ∈ e.world.store.posts := fun p hp =>
    hsound.store.recorded u p (hcovers.within p hp)
  have hcall {call : Create} (hcall : call ∈ e.creates) {p : Post}
      (hp : call.stage.post? = some p) : p ∈ e.world.store.posts := by
    obtain ⟨i, hi⟩ := List.mem_iff_getElem?.mp hcall
    exact hsound.mem_posts_of_working ((working_eq hi).trans hp)
  have hknown : Post.KnownById e.world.store.posts := fun p hp q hq hid =>
    hsound.store.eq_of_id hq hp hid
  refine Create.slice_congr_of_inTurn hs ?_ ?_ ?_ (fun p q hp hq => hknown.mono fun r hr => ?_)
    hab hba hfound hfound'
  · exact hcovers.sorted.imp Post.notOlder_of_newer
  · exact (hknown.mono hslice).pairwise (Post.nodup_of_newer hcovers.sorted)
  · have hle := bounded_of_reachable h u slice hs
    rw [Cache.Store.kept, entries_eq hsound] at *
    omega
  · rcases List.mem_append.mp hr with hr | hr
    · exact hslice r hr
    · rcases List.mem_pair.mp hr with rfl | rfl
      · exact hcall ha hp
      · exact hcall hb hq

end Timelines.Service
