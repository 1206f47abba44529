import Timelines.Proofs.Service.Creating
import Timelines.Proofs.Service.Reading
import Timelines.Proofs.Service.Retrying
import Timelines.Report.Summary

/-! What becomes of the requests of calls and of background work.

An exchange is a step of a machine together with the answer that it comes of, if it comes of one.
Whichever machine asks, a request of a side path that is not done is counted as degraded, and
nothing else is (`Create.degraded_of_exchange`, `Read.degraded_of_exchange`,
`Refill.degraded_of_exchange`); and the cache counts a hit or a miss for each lookup that it answers
(`World.lookups_of_exchange`). -/
namespace Timelines

namespace Report

/-- How often something was counted in some reports. -/
def times (m : Metric) (rs : List Report) : Nat := (counted rs).count m

variable {m : Metric} {rs : List Report}

@[simp] theorem times_nil : times m [] = 0 := rfl

@[simp] theorem times_note (n : Notice) : times m (.note n :: rs) = times m rs := rfl

@[simp] theorem times_count (m' : Metric) :
    times m (.count m' :: rs) = times m rs + if m' = m then 1 else 0 := by
  show (m' :: counted rs).count m = _
  rw [List.count_cons]
  simp [times]

@[simp] theorem times_append (rs' : List Report) :
    times m (rs ++ rs') = times m rs + times m rs' := by
  simp [times, counted, List.filterMap_append]

@[simp] theorem times_sidePathFailed (path : SidePath) (user : UserId) (post : Option PostId)
    (failure : String) :
    times m (sidePathFailed path user post failure) = if .degraded path = m then 1 else 0 := by
  simp [sidePathFailed]

theorem times_sidePathFailed_of_ne (hm : ∀ path, m ≠ .degraded path) (path : SidePath)
    (user : UserId) (post : Option PostId) (failure : String) :
    times m (sidePathFailed path user post failure) = 0 := by
  rw [times_sidePathFailed, if_neg (hm path).symm]

end Report

/-- How often a slice was looked up. -/
def Cache.Store.lookups (s : Cache.Store) : Nat := s.tally.hits + s.tally.misses

namespace Service
open Report

/-- The side path that a request belongs to. -/
def Request.sidePath? : Request → Option SidePath
  | .followers _ => some .followers
  | .cacheGet _ => some .cacheRead
  | .cacheVersion _ => some .cacheVersion
  | .cacheRefill .. => some .cacheRefill
  | .cachePush .. => some .cachePush
  | .cacheInvalidate _ => some .cacheInvalidate
  | _ => none

/-- How a request ended. -/
inductive Outcome
  | done
  | failed
  /-- Nobody waited for the answer any longer. -/
  | expired
  deriving DecidableEq

def Outcome.of {r : Request} (reply : r.Reply) : Outcome := if reply.isOk then .done else .failed

/-- A request that is over. -/
structure Answer where
  request : Request
  outcome : Outcome

namespace Answer

/-- The side path that failed. -/
def lapse? (a : Answer) : Option SidePath :=
  if a.outcome = .done then none else a.request.sidePath?

/-- The cache looked a slice up. -/
def lookup (a : Answer) : Bool :=
  match a.request with
  | .cacheGet _ => a.outcome = .done
  | _ => false

/-- What is counted of a request that is over. -/
def counts (m : Metric) (a : Answer) : Bool := a.lapse?.map .degraded = some m

theorem counts_eq_false {m : Metric} (hm : ∀ path, m ≠ .degraded path) (a : Answer) :
    counts m a = false := by
  refine decide_eq_false fun h => ?_
  obtain ⟨path, -, hpath⟩ := Option.map_eq_some_iff.mp h
  exact hm path hpath.symm

/-- A side path that failed is counted for a request of it that failed. -/
theorem times_failed (m : Metric) {r : Request} {path : SidePath} (hr : r.sidePath? = some path)
    (e : r.Error) (user : UserId) (post : Option PostId) (failure : String) :
    times m (sidePathFailed path user post failure) =
      if counts m ⟨r, .of (.error e : r.Reply)⟩ then 1 else 0 := by
  have hcounts : counts m ⟨r, .of (.error e : r.Reply)⟩ = decide (Metric.degraded path = m) := by
    show decide (r.sidePath?.map .degraded = some m) = _
    simp [hr]
  rw [times_sidePathFailed, hcounts]
  simp

end Answer

/-- A step of a machine, with the answer that it comes of if it comes of one. -/
inductive Machine.Exchange {σ μ : Type} (M : Machine σ μ) (s : σ) (w : World) :
    μ → Option Answer → σ → World → Prop
  | own {m : μ} {s' : σ} : M.own m → M.step? s m = some s' → M.Exchange s w m none s' w
  | answered {q : Question μ} {now : Nat} {reply : q.request.Reply} {s' : σ} {w' : World} :
      q ∈ M.questions s → w.answer? now q.request reply = some w' →
      M.step? s (q.answered reply) = some s' →
      M.Exchange s w (q.answered reply) (some ⟨q.request, .of reply⟩) s' w'

theorem Machine.Exchange.step {σ μ : Type} {M : Machine σ μ} {s s' : σ} {w w' : World} {m : μ}
    {a : Option Answer} (h : M.Exchange s w m a s' w') : M.Step s w m s' w' := by
  cases h with
  | own hm hs => exact .own hm hs
  | answered hq hw hs => exact .answered hq hw hs

theorem Machine.Exchange.step? {σ μ : Type} {M : Machine σ μ} {s s' : σ} {w w' : World} {m : μ}
    {a : Option Answer} (h : M.Exchange s w m a s' w') : M.step? s m = some s' := by
  cases h with
  | own _ hs => exact hs
  | answered _ _ hs => exact hs

/-! ### Lookups -/

namespace World

theorem lookups_of_answer {w w' : World} {now : Nat} {r : Request} {reply : r.Reply}
    (h : w.answer? now r reply = some w') :
    w'.cache.lookups = w.cache.lookups + if Answer.lookup ⟨r, .of reply⟩ then 1 else 0 := by
  cases reply with
  | error e =>
    rw [answer?_error] at h
    cases h
    cases r <;> rfl
  | ok x =>
    cases r with
    | cacheGet u =>
      obtain ⟨-, rfl⟩ : x = (w.cache.get now u).1 ∧
          { w with cache := (w.cache.get now u).2 } = w' := by simpa [answer?] using h
      show (w.cache.get now u).2.lookups = w.cache.lookups + 1
      unfold Cache.Store.get
      split
      · rfl
      · split
        · rfl
        · exact Nat.succ_add ..
    | cacheVersion u =>
      obtain ⟨-, rfl⟩ : x = (w.cache.version u).1 ∧
          { w with cache := (w.cache.version u).2 } = w' := by simpa [answer?] using h
      rfl
    | cacheRefill u posts version =>
      obtain ⟨-, rfl⟩ : x = (w.cache.refill now u posts version).1 ∧
          { w with cache := (w.cache.refill now u posts version).2 } = w' := by
        simpa [answer?] using h
      show (w.cache.refill now u posts version).2.lookups = w.cache.lookups
      unfold Cache.Store.refill
      dsimp only
      split
      · unfold Cache.Store.store Cache.Store.lookups
        dsimp only
        split <;> rfl
      · rfl
    | cachePush u p maxLength =>
      cases h
      show (w.cache.push now u p maxLength).lookups = w.cache.lookups
      unfold Cache.Store.push
      dsimp only
      split
      · rfl
      · split
        · rfl
        · split <;> rfl
    | cacheInvalidate u =>
      cases h
      rfl
    | save draft =>
      obtain ⟨-, hw⟩ := Option.ite_none_left_eq_some.mp h
      cases hw
      rfl
    | query owner limit =>
      simp only [answer?] at h
      split at h
      · obtain ⟨-, hw⟩ := Option.ite_none_right_eq_some.mp h
        cases hw
        rfl
      · cases h
    | userExists u | followers u | write u p | publish event =>
      cases h
      rfl

/-- The cache counts the lookups that it answers, and nothing else as one. -/
theorem lookups_of_exchange {σ μ : Type} {M : Machine σ μ} {s s' : σ} {w w' : World} {m : μ}
    {a : Option Answer} (h : M.Exchange s w m a s' w') :
    w'.cache.lookups = w.cache.lookups + a.toList.countP Answer.lookup := by
  cases h with
  | own hm hs => rfl
  | answered hq hw hs =>
    rw [lookups_of_answer hw, Option.toList_some, List.countP_singleton]

end World

/-! ### Degraded side paths -/

namespace Create
variable {c : Config} {call next : Create} {m : Move} {a : Option Answer} {w w' : World}

/-- A fan-out degrades nothing. -/
theorem degraded_of_spread (c : Config) (call : Create) (move : Fanout.Move) (path : SidePath) :
    times (.degraded path) (call.reports c (.spread move)) = 0 := by
  simp only [reports]
  split
  next followers f hs =>
    rw [times_append, Nat.add_eq_zero_iff]
    constructor
    · unfold Fanout.reports
      split
      next => rfl
      next => rfl
      next => split <;> rfl
      next => rfl
    · split
      next => split <;> rfl
      next => rfl
  next => rfl

theorem degraded_of_own (c : Config) (call : Create) (hm : m.own) (path : SidePath) :
    times (.degraded path) (call.reports c m) = 0 := by
  cases m with
  | lookedUp reply | recorded reply | resolved reply | maintained u reply | announced reply =>
    cases hm
  | dated moment | maintain | cancelled => rfl
  | named correlation =>
    simp only [reports]
    split <;> rfl
  | spread move => exact degraded_of_spread c call move path

theorem degraded_of_answered {q : Question Move} (hq : q ∈ call.questions c)
    (reply : q.request.Reply) (path : SidePath) :
    times (.degraded path) (call.reports c (q.answered reply)) =
      if Answer.counts (.degraded path) ⟨q.request, .of reply⟩ then 1 else 0 := by
  obtain ⟨author, content, stage⟩ := call
  cases stage with
  | lookingUp | recording draft =>
    cases List.mem_singleton.mp hq
    cases reply <;> rfl
  | resolving post =>
    cases List.mem_singleton.mp hq
    cases reply with
    | ok followers => rfl
    | error e => exact Answer.times_failed _ rfl e ..
  | spreading followers f =>
    obtain ⟨n, -, hn⟩ := List.mem_filterMap.mp hq
    unfold writing? at hn
    split at hn
    next u delivered failed hw =>
      cases hn
      rw [degraded_of_spread]
      cases reply <;> rfl
    next => cases hn
  | maintaining post n s waiting running =>
    obtain ⟨u, hu, rfl⟩ := List.mem_map.mp hq
    revert reply
    unfold upkeep
    cases hc : c.maintenance with
    | invalidate | push =>
      intro reply
      cases reply with
      | ok done => rfl
      | error e =>
        simp only [reports, hc]
        exact Answer.times_failed _ rfl e ..
  | announcing post n s event =>
    cases List.mem_singleton.mp hq
    cases reply <;> rfl
  | dating | naming | finished | broken => cases hq

/-- A call counts the side paths of its own requests that failed. -/
theorem degraded_of_exchange (h : (machine c).Exchange call w m a next w') (path : SidePath) :
    times (.degraded path) (call.reports c m) =
      a.toList.countP (Answer.counts (.degraded path)) := by
  cases h with
  | own hm hs => exact degraded_of_own c call hm path
  | answered hq hw hs =>
    rw [degraded_of_answered hq, Option.toList_some, List.countP_singleton]

end Create

namespace Read

/-- A call counts the side paths of its own requests that failed. -/
theorem degraded_of_exchange {c : Config} {call next : Read} {m : Move} {a : Option Answer}
    {w w' : World} (h : (machine c).Exchange call w m a next w') (path : SidePath) :
    times (.degraded path) (call.reports m) =
      a.toList.countP (Answer.counts (.degraded path)) := by
  cases h with
  | own hm hs =>
    cases m with
    | waited | cancelled => rfl
    | _ => cases hm
  | @answered q now reply _ _ hq hw hs =>
    rw [Option.toList_some, List.countP_singleton]
    have hq := Option.mem_toList.mp hq
    unfold question? at hq
    split at hq
    next =>
      cases hq
      match reply with
      | .ok none | .ok (some []) | .ok (some (_ :: _)) => rfl
      | .error e => exact Answer.times_failed _ rfl e ..
    next =>
      cases hq
      cases reply with
      | ok version => rfl
      | error e => exact Answer.times_failed _ rfl e ..
    next =>
      cases hq
      cases reply <;> rfl
    next => cases hq

end Read

namespace Refill

/-- The answer that a move of a refill comes of. Nobody waits for the cache any longer when the time
is over. -/
def answer? (r : Refill) (m : Move) (a : Option Answer) : Option Answer :=
  match m with
  | .expired => some ⟨r.question.request, .expired⟩
  | .stored _ => a

/-- A refill counts that it failed, and that it took too long. -/
theorem times_of_exchange (c : Config) {r next : Refill} {m : Move} {a : Option Answer}
    {w w' : World} (h : machine.Exchange r w m a next w') (m' : Metric) :
    times m' (r.reports c m) = (r.answer? m a).toList.countP (Answer.counts m') := by
  cases h with
  | own hm hs =>
    cases m with
    | stored reply => cases hm
    | expired => simp [reports, answer?, Answer.counts, Answer.lapse?, question, Request.sidePath?]
  | @answered q now reply _ _ hq hw hs =>
    cases List.mem_singleton.mp hq
    cases reply with
    | ok stored => rfl
    | error e =>
      show _ = [(⟨r.question.request, _⟩ : Answer)].countP _
      rw [List.countP_singleton]
      exact Answer.times_failed _ rfl e ..

/-- A refill looks nothing up. -/
theorem lookups_answer {r next : Refill} {m : Move} {a : Option Answer} {w w' : World}
    (h : machine.Exchange r w m a next w') :
    (r.answer? m a).toList.countP Answer.lookup = a.toList.countP Answer.lookup := by
  cases h with
  | own hm hs =>
    cases m with
    | stored reply => cases hm
    | expired => rfl
  | answered hq hw hs =>
    cases List.mem_singleton.mp hq
    rfl

end Refill

namespace Retry

/-- A retry degrades nothing. -/
theorem degraded_of_exchange {r next : Retry} {m : Move} {a : Option Answer} {w w' : World}
    (h : machine.Exchange r w m a next w') (path : SidePath) :
    times (.degraded path) (r.reports m) = a.toList.countP (Answer.counts (.degraded path)) := by
  cases h with
  | own hm hs =>
    cases m with
    | published reply => cases hm
    | rested => rfl
  | @answered q now reply _ _ hq hw hs =>
    have hq := Option.mem_toList.mp hq
    unfold question? at hq
    split at hq
    next n hstage =>
      cases hq
      cases reply with
      | ok accepted => rfl
      | error e =>
        simp only [reports, hstage]
        split <;> rfl
    next => cases hq

end Retry
end Service
end Timelines
