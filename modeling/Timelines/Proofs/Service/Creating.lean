import Timelines.Proofs.Service.World

/-! All that a call which creates a post can do.

`Course` lists the steps of such a call, each with what it does to the world, and
`Create.course_of_step` says that the list is complete. Only a save adds to the posts, only a write
to a timeline, and the cache is touched by nothing but upkeep. -/
namespace Timelines.Service

namespace World

/-- The world with one more post in the store. -/
def record (w : World) (p : Post) : World :=
  { w with store := { w.store with posts := w.store.posts ++ [p] } }

/-- The world with a post in a timeline. -/
def write (w : World) (owner : UserId) (p : Post) : World :=
  { w with store := w.store.write owner p }

/-- The world after a follower's slice was brought up to date. -/
def upkeep (c : Config) (w : World) (now : Nat) (follower : UserId) (p : Post) : World :=
  match c.maintenance with
  | .invalidate => { w with cache := w.cache.invalidate follower }
  | .push => { w with cache := w.cache.push now follower p c.cacheMaxEntries }

theorem store_upkeep (c : Config) (w : World) (now : Nat) (follower : UserId) (p : Post) :
    (w.upkeep c now follower p).store = w.store := by
  unfold upkeep
  split <;> rfl

end World

namespace Create

/-- The stage of a call whose fan-out has come so far. -/
def spreadStage (c : Config) (followers : List UserId) (f : Fanout) : CreateStage :=
  if f.finished then afterSpread c f.post followers f.spread else .spreading followers f

/-- The stage of a call with so many followers left to bring up to date. -/
def upkeepStage (post : Post) (n : Nat) (s : Spread) (waiting running : List UserId) :
    CreateStage :=
  match waiting, running with
  | [], [] => .naming post n s
  | waiting, running => .maintaining post n s waiting running

/-- The steps of a call: from a stage and a world by a move to the next ones. -/
inductive Course (c : Config) (author : UserId) (content : String) (w : World) :
    CreateStage → Move → CreateStage → World → Prop
  | known : Course c author content w .lookingUp (.lookedUp (.ok true)) .dating w
  | unknown : Course c author content w .lookingUp (.lookedUp (.ok false))
      (.finished (.error (.authorNotFound author.text))) w
  | notLookedUp (e : GraphError) : Course c author content w .lookingUp (.lookedUp (.error e))
      (.finished (.error (.authorLookupFailed e))) w
  | dated {moment : Moment} {draft : Draft} : Draft.make author content moment = .ok draft →
      Course c author content w .dating (.dated (some moment)) (.recording draft) w
  | invalid {moment : Moment} {v : Violation} : Draft.make author content moment = .error v →
      Course c author content w .dating (.dated (some moment))
        (.finished (.error (.invalidContent v))) w
  | undated : Course c author content w .dating (.dated none) .broken w
  | recorded (draft : Draft) {id : PostId} : (∀ p ∈ w.store.posts, p.id ≠ id) →
      Course c author content w (.recording draft) (.recorded (.ok id))
        (.resolving (draft.toPost id)) (w.record (draft.toPost id))
  | notRecorded (draft : Draft) (e : StoreError) : Course c author content w (.recording draft)
      (.recorded (.error e)) (.finished (.error (.persistenceFailed e))) w
  | resolved (post : Post) (followers : List UserId) : Course c author content w (.resolving post)
      (.resolved (.ok followers)) (afterResolving c post (distinct followers)) w
  | notResolved (post : Post) (e : GraphError) : Course c author content w (.resolving post)
      (.resolved (.error e)) (afterResolving c post []) w
  | spread (followers : List UserId) {f f' : Fanout} {m : Fanout.Move} : f.step? m = some f' →
      (∀ n reply, m ≠ .wrote n reply) → Course c author content w (.spreading followers f)
        (.spread m) (spreadStage c followers f') w
  | wrote (followers : List UserId) {f f' : Fanout} {n : Nat} {a : Worker} {u : UserId} :
      f.workers[n]? = some a → a.activity = .writing u →
      f.step? (.wrote n (.ok ())) = some f' → Course c author content w (.spreading followers f)
        (.spread (.wrote n (.ok ()))) (spreadStage c followers f') (w.write u f.post)
  | notWritten (followers : List UserId) {f f' : Fanout} {n : Nat} {e : StoreError} :
      f.step? (.wrote n (.error e)) = some f' → Course c author content w (.spreading followers f)
        (.spread (.wrote n (.error e))) (spreadStage c followers f') w
  | maintain (post : Post) (n : Nat) (s : Spread) (u : UserId) (waiting running : List UserId) :
      running.length < c.bounds.workers →
      Course c author content w (.maintaining post n s (u :: waiting) running) .maintain
        (.maintaining post n s waiting (running ++ [u])) w
  | maintained (post : Post) (n : Nat) (s : Spread) (waiting : List UserId)
      {running : List UserId} {u : UserId} (now : Nat) : u ∈ running →
      Course c author content w (.maintaining post n s waiting running) (.maintained u (.ok ()))
        (upkeepStage post n s waiting (running.erase u)) (w.upkeep c now u post)
  | notMaintained (post : Post) (n : Nat) (s : Spread) (waiting : List UserId)
      {running : List UserId} {u : UserId} (e : CacheError) : u ∈ running →
      Course c author content w (.maintaining post n s waiting running) (.maintained u (.error e))
        (upkeepStage post n s waiting (running.erase u)) w
  | named (post : Post) (n : Nat) (s : Spread) (correlation : Uuid) : c.publish = .strict →
      Course c author content w (.naming post n s) (.named correlation)
        (.announcing post n s (.announcing post correlation)) w
  | launched (post : Post) (n : Nat) (s : Spread) (correlation : Uuid) {attempts backoff : Nat} :
      c.publish = .bestEffort attempts backoff →
      Course c author content w (.naming post n s) (.named correlation)
        (.finished (.ok post.id)) w
  | announced (post : Post) (n : Nat) (s : Spread) (event : Event) :
      Course c author content w (.announcing post n s event) (.announced (.ok ()))
        (.finished (.ok post.id)) w
  | notAnnounced (post : Post) (n : Nat) (s : Spread) (event : Event) (e : PublishError) :
      Course c author content w (.announcing post n s event) (.announced (.error e))
        (.finished (.error (.publishFailed post.id e))) w
  | cancelledLookingUp : Course c author content w .lookingUp .cancelled
      (.finished (.error (.cancelled none))) w
  | cancelledRecording (draft : Draft) : Course c author content w (.recording draft) .cancelled
      (.finished (.error (.cancelled none))) w
  | cancelledAnnouncing (post : Post) (n : Nat) (s : Spread) (event : Event) :
      Course c author content w (.announcing post n s event) .cancelled
        (.finished (.error (.cancelled (some post.id)))) w

theorem next?_maintained {c : Config} {call : Create} {post : Post} {n : Nat} {s : Spread}
    {waiting running : List UserId} {u : UserId}
    (hs : call.stage = .maintaining post n s waiting running) (hu : u ∈ running)
    (reply : Except CacheError Unit) :
    call.next? c (.maintained u reply) =
      some (upkeepStage post n s waiting (running.erase u)) := by
  simp only [next?, hs, hu, not_true_eq_false, if_false]
  cases waiting <;> cases running.erase u <;> rfl

/-- The moves that a call makes by itself. -/
theorem course_of_own {c : Config} {call : Create} {m : Move} {stage : CreateStage} (w : World)
    (hm : m.own) (h : call.next? c m = some stage) :
    Course c call.author call.content w call.stage m stage w := by
  cases m with
  | lookedUp reply => cases hm
  | dated moment =>
    simp only [next?] at h
    split at h
    next moment hs =>
      rw [hs]
      split at h
      next draft hd =>
        cases h
        exact .dated hd
      next v hv =>
        cases h
        exact .invalid hv
    next hs =>
      cases h
      rw [hs]
      exact .undated
    next => cases h
  | recorded reply => cases hm
  | resolved reply => cases hm
  | spread move =>
    simp only [next?] at h
    split at h
    next followers f hs =>
      obtain ⟨f', hf, rfl⟩ := Option.map_eq_some_iff.mp h
      rw [hs]
      refine .spread followers hf fun n reply he => ?_
      rw [he] at hm
      cases hm
    next => cases h
  | maintain =>
    simp only [next?] at h
    split at h
    next post n s u waiting running hs =>
      split at h
      next => cases h
      next hlt =>
        cases h
        rw [hs]
        exact .maintain post n s u waiting running (Nat.lt_of_not_le hlt)
    next => cases h
  | maintained u reply => cases hm
  | named correlation =>
    simp only [next?] at h
    split at h
    next post n s hs =>
      rw [hs]
      split at h
      next hp =>
        cases h
        exact .named post n s correlation hp
      next hp =>
        cases h
        exact .launched post n s correlation hp
    next => cases h
  | announced reply => cases hm
  | cancelled =>
    simp only [next?] at h
    split at h
    next hs =>
      cases h
      rw [hs]
      exact .cancelledLookingUp
    next draft hs =>
      cases h
      rw [hs]
      exact .cancelledRecording draft
    next post n s event hs =>
      cases h
      rw [hs]
      exact .cancelledAnnouncing post n s event
    next => cases h

theorem answered_upkeep {c : Config} {post : Post} {u : UserId} {w w' : World} {now : Nat}
    {reply : (upkeep c post u).request.Reply}
    (hw : w.answer? now (upkeep c post u).request reply = some w') :
    (upkeep c post u).answered reply = .maintained u (.ok ()) ∧ w' = w.upkeep c now u post ∨
      ∃ e, (upkeep c post u).answered reply = .maintained u (.error e) ∧ w' = w := by
  unfold World.upkeep
  revert reply
  unfold upkeep
  cases c.maintenance with
  | invalidate =>
    intro reply hw
    cases reply with
    | ok done =>
      cases hw
      exact .inl ⟨rfl, rfl⟩
    | error e =>
      cases hw
      exact .inr ⟨e, rfl, rfl⟩
  | push =>
    intro reply hw
    cases reply with
    | ok done =>
      cases hw
      exact .inl ⟨rfl, rfl⟩
    | error e =>
      cases hw
      exact .inr ⟨e, rfl, rfl⟩

/-- The answers that a call gets where it waits for a single one. -/
theorem course_of_question {c : Config} {call : Create} {w w' : World} {q : Question Move}
    {now : Nat} {reply : q.request.Reply} {stage : CreateStage} (hq : call.question? = some q)
    (hw : w.answer? now q.request reply = some w')
    (h : call.next? c (q.answered reply) = some stage) :
    Course c call.author call.content w call.stage (q.answered reply) stage w' := by
  unfold question? at hq
  split at hq
  next hs =>
    cases hq
    rw [hs]
    simp only [next?, hs] at h
    match reply with
    | .ok true =>
      cases h
      cases hw
      exact .known
    | .ok false =>
      cases h
      cases hw
      exact .unknown
    | .error e =>
      cases h
      cases hw
      exact .notLookedUp e
  next draft hs =>
    cases hq
    rw [hs]
    simp only [next?, hs] at h
    match reply with
    | .ok id =>
      cases h
      simp only [World.answer?, Option.ite_none_left_eq_some, List.any_eq_true, decide_eq_true_eq,
        not_exists, not_and, Option.some.injEq] at hw
      obtain ⟨hid, rfl⟩ := hw
      exact .recorded draft hid
    | .error e =>
      cases h
      cases hw
      exact .notRecorded draft e
  next post hs =>
    cases hq
    rw [hs]
    simp only [next?, hs] at h
    match reply with
    | .ok followers =>
      cases h
      cases hw
      exact .resolved post followers
    | .error e =>
      cases h
      cases hw
      exact .notResolved post e
  next post n s event hs =>
    cases hq
    rw [hs]
    simp only [next?, hs] at h
    match reply with
    | .ok () =>
      cases h
      cases hw
      exact .announced post n s event
    | .error e =>
      cases h
      cases hw
      exact .notAnnounced post n s event e
  next => cases hq

/-- The answers that a call gets. -/
theorem course_of_answered {c : Config} {call : Create} {w w' : World} {q : Question Move}
    {now : Nat} {reply : q.request.Reply} {stage : CreateStage} (hq : q ∈ call.questions c)
    (hw : w.answer? now q.request reply = some w')
    (h : call.next? c (q.answered reply) = some stage) :
    Course c call.author call.content w call.stage (q.answered reply) stage w' := by
  unfold questions at hq
  split at hq
  next followers f hs =>
    obtain ⟨n, -, hn⟩ := List.mem_filterMap.mp hq
    unfold writing? at hn
    split at hn
    next u delivered failed ha =>
      cases hn
      simp only [next?, hs] at h
      obtain ⟨f', hf, rfl⟩ := Option.map_eq_some_iff.mp h
      rw [hs]
      cases reply with
      | ok done =>
        cases hw
        exact .wrote followers ha rfl hf
      | error e =>
        cases hw
        exact .notWritten followers hf
    next => cases hn
  next post n s waiting running hs =>
    obtain ⟨u, hu, rfl⟩ := List.mem_map.mp hq
    rcases answered_upkeep hw with ⟨ha, rfl⟩ | ⟨e, ha, rfl⟩
    · rw [ha] at h ⊢
      rw [next?_maintained hs hu] at h
      cases h
      rw [hs]
      exact .maintained post n s waiting now hu
    · rw [ha] at h ⊢
      rw [next?_maintained hs hu] at h
      cases h
      rw [hs]
      exact .notMaintained post n s waiting e hu
  next => exact course_of_question (Option.mem_toList.mp hq) hw h

/-- The list of courses is complete. -/
theorem course_of_step {c : Config} {call next : Create} {w w' : World} {m : Move}
    (h : (machine c).Step call w m next w') :
    next.author = call.author ∧ next.content = call.content ∧
      Course c call.author call.content w call.stage m next.stage w' := by
  cases h with
  | own hm hs =>
    obtain ⟨stage, hn, rfl⟩ := Option.map_eq_some_iff.mp hs
    exact ⟨rfl, rfl, course_of_own w hm hn⟩
  | answered hq hw hs =>
    obtain ⟨stage, hn, rfl⟩ := Option.map_eq_some_iff.mp hs
    exact ⟨rfl, rfl, course_of_answered hq hw hn⟩

end Create
end Timelines.Service
