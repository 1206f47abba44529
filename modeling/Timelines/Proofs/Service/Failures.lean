import Timelines.Proofs.Service.Engine
import Timelines.Proofs.Service.Accounts

/-! The failures of a call's requests, and what is reported of them.

A fault is a request that a peer answered with an error (`Create.fault?_eq_some_iff`). A call goes
on after a fault of the followers, of a write or of the upkeep; each of these is counted once and
noted once, with the text of the error, and nothing else is reported in that way
(`Create.reported_of_run`). -/
namespace Timelines

/-- Reports of faults that a call goes on after. -/
def Report.ofFault : Report → Bool
  | .count (.degraded _) | .count (.fanoutWrites false) => true
  | .note (.degraded ..) | .note (.writeFailed ..) => true
  | _ => false

namespace Service
open Report

/-- The text of a peer's error. -/
def Request.errorText : (r : Request) → r.Error → String
  | .userExists _ | .followers _ => GraphError.message
  | .save _ | .write _ _ | .query _ _ => StoreError.message
  | .publish _ => PublishError.message
  | .cacheGet _ | .cacheVersion _ | .cacheRefill _ _ _ | .cachePush _ _ _ | .cacheInvalidate _ =>
    CacheError.message

/-- A request that was answered with an error. -/
structure Fault where
  request : Request
  /-- The post at work. -/
  post : Option PostId
  text : String
  deriving DecidableEq

/-- What is reported of a fault that a call goes on after. -/
def Fault.reports : Fault → List Report
  | ⟨.followers u, _, text⟩ => sidePathFailed .followers u none text
  | ⟨.write u p, _, text⟩ => [.count (.fanoutWrites false), .note (.writeFailed u p.id text)]
  | ⟨.cachePush u _ _, post, text⟩ => sidePathFailed .cachePush u post text
  | ⟨.cacheInvalidate u, post, text⟩ => sidePathFailed .cacheInvalidate u post text
  | _ => []

namespace Create

/-- A move answers one of the requests under way with an error. -/
def Fails (c : Config) (call : Create) (m : Move) (f : Fault) : Prop :=
  ∃ q ∈ call.questions c, ∃ e : q.request.Error, m = q.answered (.error e) ∧
    f = ⟨q.request, call.stage.post?.map (·.id), q.request.errorText e⟩

/-- The fault that a move makes known. -/
def fault? (c : Config) (call : Create) (m : Move) : Option Fault :=
  match call.stage, m with
  | .lookingUp, .lookedUp (.error e) => some ⟨.userExists call.author, none, e.message⟩
  | .recording draft, .recorded (.error e) => some ⟨.save draft, none, e.message⟩
  | .resolving post, .resolved (.error e) =>
    some ⟨.followers call.author, some post.id, e.message⟩
  | .spreading _ f, .spread (.wrote n (.error e)) =>
    match f.workers[n]? with
    | some { activity := .writing u, .. } => some ⟨.write u f.post, some f.post.id, e.message⟩
    | _ => none
  | .maintaining post _ _ _ running, .maintained u (.error e) =>
    if u ∈ running then some ⟨(upkeep c post u).request, some post.id, e.message⟩ else none
  | .announcing _ _ _ event, .announced (.error e) => some ⟨.publish event, none, e.message⟩
  | _, _ => none

variable {c : Config} {author : UserId} {content : String}

theorem failed_upkeep (c : Config) (post : Post) (u : UserId)
    (e : (upkeep c post u).request.Error) :
    ∃ e' : CacheError, (upkeep c post u).answered (.error e) = .maintained u (.error e') ∧
      (upkeep c post u).request.errorText e = e'.message := by
  revert e
  unfold upkeep
  cases c.maintenance with
  | invalidate | push => exact fun e => ⟨e, rfl, rfl⟩

theorem upkeep_fails (c : Config) (post : Post) (u : UserId) (e : CacheError) :
    ∃ e', Move.maintained u (.error e) = (upkeep c post u).answered (.error e') ∧
      e.message = (upkeep c post u).request.errorText e' := by
  unfold upkeep
  cases c.maintenance with
  | invalidate | push => exact ⟨e, rfl, rfl⟩

theorem fails_of_fault? {stage : CreateStage} {m : Move} {f : Fault}
    (h : fault? c ⟨author, content, stage⟩ m = some f) : Fails c ⟨author, content, stage⟩ m f := by
  unfold fault? at h
  split at h
  next e hs =>
    cases hs
    cases h
    exact ⟨_, List.mem_cons_self .., e, rfl, rfl⟩
  next draft e hs =>
    cases hs
    cases h
    exact ⟨_, List.mem_cons_self .., e, rfl, rfl⟩
  next post e hs =>
    cases hs
    cases h
    exact ⟨_, List.mem_cons_self .., e, rfl, rfl⟩
  next followers f n e hs =>
    cases hs
    split at h
    next u delivered failed hw =>
      cases h
      refine ⟨⟨.write u f.post, fun reply => .spread (.wrote n reply)⟩, ?_, e, rfl, rfl⟩
      have hn := (List.getElem?_eq_some_iff.mp hw).1
      refine List.mem_filterMap.mpr ⟨n, List.mem_range.mpr hn, ?_⟩
      simp only [writing?, hw]
    next => cases h
  next post n s waiting running u e hs =>
    cases hs
    obtain ⟨hu, hf⟩ := Option.ite_none_right_eq_some.mp h
    cases hf
    obtain ⟨e', hm, ht⟩ := upkeep_fails c post u e
    exact ⟨upkeep c post u, List.mem_map_of_mem hu, e', hm, by rw [ht]; rfl⟩
  next post n s event e hs =>
    cases hs
    cases h
    exact ⟨_, List.mem_cons_self .., e, rfl, rfl⟩
  next => cases h

theorem fault?_of_fails {stage : CreateStage} {m : Move} {f : Fault}
    (h : Fails c ⟨author, content, stage⟩ m f) : fault? c ⟨author, content, stage⟩ m = some f := by
  obtain ⟨q, hq, e, rfl, rfl⟩ := h
  cases stage with
  | lookingUp | recording draft | resolving post | announcing post n s event =>
    cases List.mem_singleton.mp hq
    rfl
  | spreading followers f =>
    obtain ⟨n, -, hn⟩ := List.mem_filterMap.mp hq
    unfold writing? at hn
    split at hn
    next u delivered failed hw =>
      cases hn
      simp only [fault?, hw]
      rfl
    next => cases hn
  | maintaining post n s waiting running =>
    obtain ⟨u, hu, rfl⟩ := List.mem_map.mp hq
    obtain ⟨e', hm, ht⟩ := failed_upkeep c post u e
    rw [hm, ht]
    exact if_pos hu
  | _ => cases hq

/-- The faults are the errors that requests under way are answered with. -/
theorem fault?_eq_some_iff {call : Create} {m : Move} {f : Fault} :
    call.fault? c m = some f ↔ call.Fails c m f :=
  ⟨fails_of_fault?, fault?_of_fails⟩

/-! ### Reports -/

/-- What is reported in a history. -/
def reported (c : Config) (ts : List Turn) : List Report :=
  ts.flatMap fun t => t.call.reports c t.move

/-- The faults of a history. -/
def faults (c : Config) (ts : List Turn) : List Fault :=
  ts.filterMap fun t => t.call.fault? c t.move

variable {before after : CreateStage} {m : Move} {w w' : World}

/-- The end of a fan-out is no fault. -/
theorem reports_spread (followers : List UserId) {f f' : Fanout} {move : Fanout.Move}
    (hf : f.step? move = some f') :
    (reports c ⟨author, content, .spreading followers f⟩ (.spread move)).filter Report.ofFault =
      (f.reports move).filter Report.ofFault := by
  simp only [reports, hf, List.filter_append]
  split <;> exact List.append_nil _

theorem reports_notWritten (followers : List UserId) {f f' : Fanout} {n : Nat} {e : StoreError}
    (hf : f.step? (.wrote n (.error e)) = some f') :
    let call : Create := ⟨author, content, .spreading followers f⟩
    (f.reports (.wrote n (.error e))).filter Report.ofFault =
      (call.fault? c (.spread (.wrote n (.error e)))).toList.flatMap Fault.reports := by
  cases Fanout.course_of_step hf with
  | @notWritten _ worker u _ hw ha =>
    obtain ⟨activity, delivered, failed⟩ := worker
    cases ha
    simp only [Fanout.reports, fault?, hw]
    rfl

theorem reports_notMaintained (post : Post) (n : Nat) (s : Spread) (waiting : List UserId)
    {running : List UserId} {u : UserId} (e : CacheError) (hu : u ∈ running) :
    let call : Create := ⟨author, content, .maintaining post n s waiting running⟩
    (call.reports c (.maintained u (.error e))).filter Report.ofFault =
      (call.fault? c (.maintained u (.error e))).toList.flatMap Fault.reports := by
  simp only [reports, fault?, if_pos hu, upkeep]
  cases c.maintenance <;> rfl

/-- The reports of faults that a move makes are those of the fault that it makes known. -/
theorem reports_of_course (hc : Course c author content w before m after w') :
    (reports c ⟨author, content, before⟩ m).filter Report.ofFault =
      (fault? c ⟨author, content, before⟩ m).toList.flatMap Fault.reports := by
  cases hc with
  | spread followers hf hmove =>
    rw [reports_spread followers hf]
    cases Fanout.course_of_step hf with
    | wrote | notWritten => exact absurd rfl (hmove _ _)
    | _ => rfl
  | wrote followers hw hu hf =>
    rw [reports_spread followers hf]
    rfl
  | notWritten followers hf =>
    rw [reports_spread followers hf]
    exact reports_notWritten followers hf
  | notMaintained post n s waiting e hu => exact reports_notMaintained post n s waiting e hu
  | named post n s correlation hp | launched post n s correlation hp =>
    simp only [reports, hp]
    rfl
  | _ => rfl

/-- The reports of faults in a history are those of its faults, one after the other. -/
theorem reported_of_run {ts : List Turn} {call : Create} (h : Run c author content ts call) :
    (reported c ts).filter Report.ofFault = (faults c ts).flatMap Fault.reports := by
  induction h with
  | start => rfl
  | @turn ts call next m w w' hr hs ih =>
    obtain ⟨hcall, hc⟩ := course_of_run hr hs
    have hturn := reports_of_course hc
    rw [← hcall] at hturn
    rw [reported, faults, List.flatMap_append, List.filter_append, List.filterMap_append,
      List.flatMap_append, ← reported, ← faults, ih]
    congr 1
    cases hf : call.fault? c m <;> simpa [hf] using hturn

end Create
end Service
end Timelines
