import Mathlib.Data.List.Basic
import Timelines.Proofs.Service.Conservation
import Timelines.Proofs.Service.Recording

/-! The requests that a call makes.

A request is made by the move that sets it going: it is under way after the move, and it is not one
of those that were under way before and that the move left without an answer
(`Create.asked_of_step`). A fan-out makes its requests one by one, as its workers take followers out
of the queue (`Fanout.noted_requests`). -/
namespace Timelines.Service

/-! ### What one list has over another -/

section Diff
variable {α : Type} [DecidableEq α] {x : α} {xs ys : List α}

theorem diff_of_perm (h : xs.Perm ys) : xs.diff ys = [] := by
  induction ys generalizing xs with
  | nil => exact h.eq_nil
  | cons y ys ih =>
    rw [List.diff_cons]
    apply ih
    simpa using h.erase y

theorem diff_of_perm_cons (h : xs.Perm (x :: ys)) : xs.diff ys = [x] := by
  induction ys generalizing xs with
  | nil => exact List.perm_singleton.mp h
  | cons y ys ih =>
    rw [List.diff_cons]
    apply ih
    have hswap : xs.Perm (y :: x :: ys) := h.trans (.swap ..)
    simpa using hswap.erase y

end Diff

/-! ### The requests of a fan-out -/

/-- The request that a worker waits for. -/
def Worker.request? (post : Post) (w : Worker) : Option Request :=
  match w.activity with
  | .writing u => some (.write u post)
  | _ => none

namespace Fanout

/-- The requests under way for a fan-out. -/
def requests (f : Fanout) : List Request := f.workers.filterMap (Worker.request? f.post)

/-- The request to write a post to a follower. -/
def Write.request (post : Post) (x : Write) : Request := .write x.follower post

theorem writing?_request (f : Fanout) (n : Nat) :
    (Create.writing? f n).map (·.request) = f.workers[n]?.bind (Worker.request? f.post) := by
  unfold Create.writing?
  cases hw : f.workers[n]? with
  | none => rfl
  | some w =>
    obtain ⟨activity, delivered, failed⟩ := w
    cases activity <;> rfl

theorem requests_eq (f : Fanout) :
    ((List.range f.workers.length).filterMap (Create.writing? f)).map (·.request) = f.requests := by
  rw [List.map_filterMap]
  simp only [writing?_request]
  unfold requests
  conv_rhs => rw [← filterMap_range f.workers, List.filterMap_filterMap]

/-- The requests under way that a move leaves without an answer. -/
def unanswered (f : Fanout) : Move → List Request
  | .wrote n _ =>
    match f.workers[n]?.bind (Worker.request? f.post) with
    | some r => f.requests.erase r
    | none => f.requests
  | _ => f.requests

variable {f f' : Fanout} {m : Move}

/-- When one worker changes, the requests change by its own. -/
theorem requests_set {n : Nat} {w : Worker} (hw : f.workers[n]? = some w) :
    ∃ rest, f.requests.Perm ((w.request? f.post).toList ++ rest) ∧ ∀ w',
      ((f.workers.set n w').filterMap (Worker.request? f.post)).Perm
        ((w'.request? f.post).toList ++ rest) := by
  obtain ⟨hn, rfl⟩ := List.getElem?_eq_some_iff.mp hw
  have hcons (v : Worker) : (v :: f.workers.eraseIdx n).filterMap (Worker.request? f.post) =
      (v.request? f.post).toList ++ (f.workers.eraseIdx n).filterMap (Worker.request? f.post) := by
    rw [List.filterMap_cons]
    cases v.request? f.post <;> rfl
  refine ⟨(f.workers.eraseIdx n).filterMap (Worker.request? f.post), ?_, fun w' => ?_⟩
  · rw [← hcons]
    exact (List.getElem_cons_eraseIdx_perm hn).symm.filterMap _
  · rw [← hcons]
    exact (List.set_perm_cons_eraseIdx hn w').filterMap _

/-- A worker that neither was writing nor is leaves the requests as they are. -/
theorem requests_kept {n : Nat} {w : Worker} (w' : Worker) (hw : f.workers[n]? = some w)
    (h : w.request? f.post = none) (h' : w'.request? f.post = none) :
    ((f.workers.set n w').filterMap (Worker.request? f.post)).Perm f.requests := by
  obtain ⟨rest, hold, hnew⟩ := requests_set hw
  have hnew := hnew w'
  rw [h] at hold
  rw [h'] at hnew
  exact hnew.trans hold.symm

/-- A worker in line waits for no request. -/
theorem request?_of_mem_line (hp : Placed f) {n : Nat} {w : Worker} (hw : f.workers[n]? = some w)
    (hn : n ∈ f.line) : w.request? f.post = none := by
  have ha := (hp.mem_line n).mp hn
  rw [activity?_eq hw] at ha
  unfold Worker.request?
  rw [Option.some.inj ha]

/-- A write that ended is no longer under way. -/
theorem unanswered_ended {n : Nat} {w w' : Worker} {u : UserId} {reply : Except StoreError Unit}
    (hw : f.workers[n]? = some w) (ha : w.activity = .writing u) (ha' : w'.activity = .away) :
    ((f.workers.set n w').filterMap (Worker.request? f.post)).Perm
      (f.unanswered (.wrote n reply)) := by
  have hr : w.request? f.post = some (.write u f.post) := by
    unfold Worker.request?
    rw [ha]
  have hr' : w'.request? f.post = none := by
    unfold Worker.request?
    rw [ha']
  obtain ⟨rest, hold, hnew⟩ := requests_set hw
  have hnew := hnew w'
  rw [hr] at hold
  rw [hr'] at hnew
  have herase := hold.erase (.write u f.post)
  simp only [Option.toList_some, List.singleton_append, List.erase_cons_head] at herase
  simp only [unanswered, hw, Option.bind_some, hr]
  exact hnew.trans herase.symm

/-- The requests that a move makes are the writes that are noted for it. -/
theorem noted_requests (hp : Placed f) (h : Course f m f') (ws : List Write) :
    (f.noted ws m).map (Write.request f.post) =
      ws.map (Write.request f.post) ++ f'.requests.diff (f.unanswered m) := by
  have same (hn : (f.noted ws m).map (Write.request f.post) = ws.map (Write.request f.post))
      (hr : f'.requests.Perm (f.unanswered m)) :
      (f.noted ws m).map (Write.request f.post) =
        ws.map (Write.request f.post) ++ f'.requests.diff (f.unanswered m) := by
    rw [hn, diff_of_perm hr, List.append_nil]
  have answers (n : Nat) (reply : Except StoreError Unit) :
      (ws.map (Write.answer n reply)).map (Write.request f.post) =
        ws.map (Write.request f.post) := by
    rw [List.map_map]
    exact List.map_congr_left fun x _ => congrArg (Request.write · f.post) (follower_answer x)
  cases h with
  | dispatch hr hc hq => exact same rfl (.refl _)
  | stop hc => exact same rfl (.refl _)
  | ask hw ha =>
    refine same rfl (requests_kept _ hw ?_ rfl)
    unfold Worker.request?
    rw [ha]
  | @take n line u queue w hl hq hw =>
    have hnone := request?_of_mem_line hp hw (hl ▸ List.mem_cons_self ..)
    obtain ⟨rest, hold, hnew⟩ := requests_set hw
    have hnew : List.Perm _ (.write u f.post :: rest) := hnew { w with activity := .writing u }
    rw [hnone] at hold
    have hperm := hnew.trans (List.Perm.cons _ hold.symm)
    show _ = _ ++ List.diff (List.filterMap _ _) f.requests
    rw [diff_of_perm_cons hperm, noted, hl, hq, List.map_append]
    rfl
  | wrote hw ha => exact same (answers _ _) (unanswered_ended hw ha rfl)
  | notWritten e hw ha => exact same (answers _ _) (unanswered_ended hw ha rfl)
  | leave hl hc hq hw =>
    have hline := request?_of_mem_line hp hw (hl ▸ List.mem_cons_self ..)
    exact same rfl (requests_kept _ hw hline rfl)

/-- No request is under way for a fan-out that is over. -/
theorem requests_of_finished (hp : Placed f) (hf : f.finished) : f.requests = [] := by
  apply List.filterMap_eq_nil_iff.mpr
  intro w hw
  obtain ⟨n, hn⟩ := List.mem_iff_getElem?.mp hw
  obtain ⟨hlt, -⟩ := List.getElem?_eq_some_iff.mp hn
  have hleft : n ∈ f.left := (left_perm hp hf).mem_iff.mpr (List.mem_range.mpr hlt)
  have ha := (hp.mem_left n).mp hleft
  rw [activity?_eq hn] at ha
  unfold Worker.request?
  rw [Option.some.inj ha]

theorem requests_start (bounds : Bounds) (post : Post) (followers : List UserId) :
    (start bounds post followers).requests = [] := by
  apply List.filterMap_eq_nil_iff.mpr
  intro w hw
  rw [List.eq_of_mem_replicate hw]
  rfl

end Fanout

/-! ### The requests of a call -/

namespace CreateStage

/-- The requests under way at a stage of a call. -/
def requests (c : Config) (author : UserId) : CreateStage → List Request
  | .lookingUp => [.userExists author]
  | .recording draft => [.save draft]
  | .resolving _ => [.followers author]
  | .spreading _ f => f.requests
  | .maintaining post _ _ _ running => running.map fun u => (Create.upkeep c post u).request
  | .announcing _ _ _ event => [.publish event]
  | _ => []

/-- The requests under way that a move leaves without an answer. -/
def unanswered (c : Config) (author : UserId) (s : CreateStage) : Create.Move → List Request
  | .lookedUp _ | .recorded _ | .resolved _ | .announced _ => []
  | .spread m =>
    match s with
    | .spreading _ f => f.unanswered m
    | _ => s.requests c author
  | .maintained u _ =>
    match s with
    | .maintaining post .. => (s.requests c author).erase (Create.upkeep c post u).request
    | _ => s.requests c author
  | _ => s.requests c author

/-- The requests that a move to another stage makes. -/
def asked (c : Config) (author : UserId) (s : CreateStage) (m : Create.Move) (next : CreateStage) :
    List Request :=
  (next.requests c author).diff (s.unanswered c author m)

theorem asked_eq_nil {c : Config} {author : UserId} {next : CreateStage}
    (h : next.requests c author = []) (s : CreateStage) (m : Create.Move) :
    s.asked c author m next = [] := by
  rw [asked, h, List.nil_diff]

end CreateStage

namespace Create

/-- The requests under way for a call. -/
def underWay (c : Config) (call : Create) : List Request := (call.questions c).map (·.request)

theorem underWay_eq (c : Config) (call : Create) :
    call.underWay c = call.stage.requests c call.author := by
  obtain ⟨author, content, stage⟩ := call
  cases stage with
  | spreading followers f => exact Fanout.requests_eq f
  | maintaining post n s waiting running => exact List.map_map
  | _ => rfl

theorem answered_upkeep_eq (c : Config) (post : Post) (u : UserId)
    (reply : (upkeep c post u).request.Reply) :
    ∃ reply', (upkeep c post u).answered reply = .maintained u reply' := by
  revert reply
  unfold upkeep
  cases c.maintenance with
  | invalidate => exact fun reply => ⟨reply, rfl⟩
  | push => exact fun reply => ⟨reply, rfl⟩

/-- An answer is to one of the requests under way, and leaves the others without one. -/
theorem unanswered_of_question {c : Config} {call : Create} {q : Question Move}
    (hq : q ∈ call.questions c) (reply : q.request.Reply) :
    (call.underWay c).Perm
      (q.request :: call.stage.unanswered c call.author (q.answered reply)) := by
  have hmem : q.request ∈ call.stage.requests c call.author := by
    rw [← underWay_eq]
    exact List.mem_map_of_mem hq
  rw [underWay_eq]
  unfold questions question? at hq
  cases hs : call.stage with
  | spreading followers f =>
    rw [hs] at hq hmem
    obtain ⟨n, -, hn⟩ := List.mem_filterMap.mp hq
    have hr := f.writing?_request n
    rw [hn, Option.map_some] at hr
    unfold writing? at hn
    split at hn
    next u delivered failed hw =>
      cases hn
      simp only [CreateStage.unanswered, Fanout.unanswered, ← hr]
      exact List.perm_cons_erase hmem
    next => cases hn
  | maintaining post n s waiting running =>
    rw [hs] at hq hmem
    obtain ⟨u, -, rfl⟩ := List.mem_map.mp hq
    obtain ⟨reply', ha⟩ := answered_upkeep_eq c post u reply
    rw [ha]
    exact List.perm_cons_erase hmem
  | lookingUp | recording draft | resolving post | announcing post n s event =>
    rw [hs] at hq
    cases List.mem_singleton.mp hq
    exact .refl _
  | _ =>
    rw [hs] at hq
    cases hq

/-- A move without an answer leaves all requests under way as they are. -/
theorem unanswered_of_own (c : Config) (call : Create) {m : Move} (hm : m.own) :
    call.stage.unanswered c call.author m = call.underWay c := by
  rw [underWay_eq]
  cases m with
  | spread move =>
    unfold CreateStage.unanswered
    cases hs : call.stage with
    | spreading followers f =>
      cases move with
      | wrote n reply => cases hm
      | _ => rfl
    | _ => rfl
  | lookedUp reply | recorded reply | resolved reply | maintained u reply | announced reply =>
    cases hm
  | dated moment | maintain | named correlation | cancelled => rfl

/-- The requests that a step makes are those under way after it and not before, where the one that
it answers counts as over. -/
theorem asked_of_step {c : Config} {call next : Create} {m : Move} {w w' : World}
    (h : (machine c).Step call w m next w') :
    ∃ rest, call.stage.asked c call.author m next.stage = (next.underWay c).diff rest ∧
      (rest = call.underWay c ∨ ∃ q ∈ call.questions c, ∃ reply, m = q.answered reply ∧
        (call.underWay c).Perm (q.request :: rest)) := by
  have hauthor : next.author = call.author := (course_of_step h).1
  refine ⟨call.stage.unanswered c call.author m, ?_, ?_⟩
  · rw [CreateStage.asked, underWay_eq, hauthor]
  · cases h with
    | own hm hs => exact .inl (unanswered_of_own c call hm)
    | answered hq hw hs => exact .inr ⟨_, hq, _, rfl, unanswered_of_question hq _⟩

/-! ### Stages after a move -/

section Stages
variable (c : Config) (author : UserId) (post : Post)

theorem requests_afterResolving (followers : List UserId) :
    (afterResolving c post followers).requests c author = [] := by
  unfold afterResolving
  split
  · rfl
  · split
    · rfl
    · exact Fanout.requests_start ..

theorem requests_spreadStage {f : Fanout} (hp : Fanout.Placed f) (followers : List UserId) :
    (spreadStage c followers f).requests c author = f.requests := by
  unfold spreadStage
  split
  next hf =>
    rw [Fanout.requests_of_finished hp hf]
    unfold afterSpread
    split <;> rfl
  next => rfl

theorem requests_upkeepStage (n : Nat) (s : Spread) (waiting running : List UserId) :
    (upkeepStage post n s waiting running).requests c author =
      running.map fun u => (upkeep c post u).request := by
  unfold upkeepStage
  split <;> rfl

end Stages

end Create
end Timelines.Service
