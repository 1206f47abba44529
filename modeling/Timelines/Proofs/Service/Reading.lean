import Timelines.Proofs.Service.World

/-! All that a call which reads a timeline can do, and its refill.

`Read.Course` and `Refill.Course` list the steps with what they do to the world;
`Read.course_of_step` and `Refill.course_of_step` say that the lists are complete. Neither touches
the store, and only a refill puts anything into the cache. -/
namespace Timelines.Service

namespace Read

/-- The stage of a call that the cache has answered. -/
def cachedStage (c : Config) : Option (List Post) → ReadStage
  | some (p :: posts) => .finished (.ok ((p :: posts).take c.queryLimit))
  | _ => .askingVersion

/-- The stage of a call that the store has answered. -/
def queriedStage : Option Nat → List Post → ReadStage
  | some _, p :: posts => .refilling (p :: posts)
  | _, posts => .finished (.ok posts)

/-- The steps of a call: from a stage and a world by a move to the next ones. -/
inductive Course (c : Config) (user : UserId) (w : World) :
    ReadStage → Move → ReadStage → World → Prop
  | cached (now : Nat) : Course c user w .askingCache (.cached (.ok (w.cache.get now user).1))
      (cachedStage c (w.cache.get now user).1) { w with cache := (w.cache.get now user).2 }
  | notCached (e : CacheError) :
      Course c user w .askingCache (.cached (.error e)) .askingVersion w
  | versioned : Course c user w .askingVersion (.versioned (.ok (w.cache.version user).1))
      (.querying (some (w.cache.version user).1)) { w with cache := (w.cache.version user).2 }
  | notVersioned (e : CacheError) :
      Course c user w .askingVersion (.versioned (.error e)) (.querying none) w
  | queried (version : Option Nat) {posts : List Post} :
      w.store.query user c.queryLimit = .ok posts →
      Course c user w (.querying version) (.queried (.ok posts)) (queriedStage version posts) w
  | notQueried (version : Option Nat) (e : StoreError) :
      Course c user w (.querying version) (.queried (.error e))
        (.finished (.error (.persistenceFailed e))) w
  | waited (posts : List Post) :
      Course c user w (.refilling posts) .waited (.finished (.ok posts)) w
  | cancelled (version : Option Nat) :
      Course c user w (.querying version) .cancelled (.finished (.error (.cancelled none))) w

theorem course_of_own {c : Config} {call : Read} {m : Move} {stage : ReadStage} (w : World)
    (hm : m.own) (h : call.next? c m = some stage) : Course c call.user w call.stage m stage w := by
  cases m with
  | cached reply => cases hm
  | versioned reply => cases hm
  | queried reply => cases hm
  | waited =>
    simp only [next?] at h
    split at h
    next posts hs =>
      cases h
      rw [hs]
      exact .waited posts
    next => cases h
  | cancelled =>
    simp only [next?] at h
    split at h
    next version hs =>
      cases h
      rw [hs]
      exact .cancelled version
    next => cases h

theorem next?_cached {c : Config} {call : Read} (hs : call.stage = .askingCache)
    (found : Option (List Post)) :
    call.next? c (.cached (.ok found)) = some (cachedStage c found) := by
  simp only [next?, hs]
  cases found with
  | none => rfl
  | some posts => cases posts <;> rfl

theorem next?_queried {c : Config} {call : Read} {version : Option Nat}
    (hs : call.stage = .querying version) (posts : List Post) :
    call.next? c (.queried (.ok posts)) = some (queriedStage version posts) := by
  simp only [next?, hs]
  cases version with
  | none => rfl
  | some version => cases posts <;> rfl

theorem course_of_answered {c : Config} {call : Read} {w w' : World} {q : Question Move} {now : Nat}
    {reply : q.request.Reply} {stage : ReadStage} (hq : call.question? c = some q)
    (hw : w.answer? now q.request reply = some w')
    (h : call.next? c (q.answered reply) = some stage) :
    Course c call.user w call.stage (q.answered reply) stage w' := by
  unfold question? at hq
  split at hq
  next hs =>
    cases hq
    rw [hs]
    cases reply with
    | ok found =>
      simp only [World.answer?, Option.ite_none_right_eq_some, Option.some.injEq] at hw
      obtain ⟨rfl, rfl⟩ := hw
      cases (next?_cached hs _).symm.trans h
      exact .cached now
    | error e =>
      simp only [next?, hs] at h
      cases h
      cases hw
      exact .notCached e
  next hs =>
    cases hq
    rw [hs]
    cases reply with
    | ok version =>
      simp only [World.answer?, Option.ite_none_right_eq_some, Option.some.injEq] at hw
      obtain ⟨rfl, rfl⟩ := hw
      simp only [next?, hs] at h
      cases h
      exact .versioned
    | error e =>
      simp only [next?, hs] at h
      cases h
      cases hw
      exact .notVersioned e
  next version hs =>
    cases hq
    rw [hs]
    cases reply with
    | ok posts =>
      cases (next?_queried hs posts).symm.trans h
      simp only [World.answer?] at hw
      split at hw
      next found hf =>
        simp only [Option.ite_none_right_eq_some, Option.some.injEq] at hw
        obtain ⟨rfl, rfl⟩ := hw
        exact .queried version hf
      next => cases hw
    | error e =>
      simp only [next?, hs] at h
      cases h
      cases hw
      exact .notQueried version e
  next => cases hq

/-- The list of courses is complete. -/
theorem course_of_step {c : Config} {call next : Read} {w w' : World} {m : Move}
    (h : (machine c).Step call w m next w') :
    next.user = call.user ∧ Course c call.user w call.stage m next.stage w' := by
  cases h with
  | own hm hs =>
    obtain ⟨stage, hn, rfl⟩ := Option.map_eq_some_iff.mp hs
    exact ⟨rfl, course_of_own w hm hn⟩
  | answered hq hw hs =>
    obtain ⟨stage, hn, rfl⟩ := Option.map_eq_some_iff.mp hs
    exact ⟨rfl, course_of_answered (Option.mem_toList.mp hq) hw hn⟩

end Read

namespace Refill

/-- The steps of a refill. -/
inductive Course (r : Refill) (w : World) : Move → World → Prop
  | stored (now : Nat) : Course r w (.stored (.ok (w.cache.refill now r.user r.posts r.version).1))
      { w with cache := (w.cache.refill now r.user r.posts r.version).2 }
  | notStored (e : CacheError) : Course r w (.stored (.error e)) w
  | expired : Course r w .expired w

theorem done_of_step {r next : Refill} {m : Move} (h : machine.step? r m = some next) :
    r.done = false ∧ next = { r with done := true } := by
  change (if r.done then none else some { r with done := true }) = some next at h
  split at h
  next => cases h
  next hd =>
    cases h
    exact ⟨by simpa using hd, rfl⟩

/-- The list of courses is complete. -/
theorem course_of_step {r next : Refill} {w w' : World} {m : Move}
    (h : machine.Step r w m next w') :
    r.done = false ∧ next = { r with done := true } ∧ Course r w m w' := by
  cases h with
  | own hm hs =>
    obtain ⟨hd, hn⟩ := done_of_step hs
    refine ⟨hd, hn, ?_⟩
    cases m with
    | stored reply => cases hm
    | expired => exact .expired
  | @answered q now reply _ _ hq hw hs =>
    obtain ⟨hd, hn⟩ := done_of_step hs
    refine ⟨hd, hn, ?_⟩
    cases List.mem_singleton.mp hq
    cases reply with
    | ok stored =>
      simp only [question, World.answer?, Option.ite_none_right_eq_some, Option.some.injEq] at hw
      obtain ⟨rfl, rfl⟩ := hw
      exact .stored now
    | error e =>
      cases hw
      exact .notStored e

end Refill
end Timelines.Service
