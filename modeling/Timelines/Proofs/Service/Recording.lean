import Timelines.Proofs.Service.Creating
import Timelines.Proofs.Service.Spreading
import Timelines.Proofs.Store.Memory

/-! A result tells whether the post was recorded.

A history of a call lists its moves, each with the world before and after it. Between two moves the
world may change in any way, for others go on as well. The caller can cancel at any time, peers can
fail or take as long as they like: `result_tells_recording` says that a result which names a post
comes of exactly one save, of the caller's author and content, and that any other result comes of
none, of a call that asked for nothing but the author and the save, and changed nothing. -/
namespace Timelines.Service

/-- A move of a call, and the world before and after it. -/
structure Turn where
  call : Create
  move : Create.Move
  before : World
  after : World

/-- What was saved, and under which id. -/
def Turn.saved? (t : Turn) : Option (Draft × PostId) :=
  match t.call.stage, t.move with
  | .recording draft, .recorded (.ok id) => some (draft, id)
  | _, _ => none

/-- The requests that come before a post is recorded. -/
def Request.early : Request → Bool
  | .userExists _ | .save _ => true
  | _ => false

/-- The post that a result names as recorded. -/
def recordedId? : Except Failure PostId → Option PostId
  | .ok id => some id
  | .error failure => failure.recorded?

/-- No post is recorded yet. -/
def CreateStage.early : CreateStage → Bool
  | .lookingUp | .dating | .recording _ => true
  | _ => false

namespace Create

/-- The histories of a call. -/
inductive Run (c : Config) (author : UserId) (content : String) : List Turn → Create → Prop
  | start : Run c author content [] (.start author content)
  | turn {ts : List Turn} {call next : Create} {m : Move} {w w' : World} :
      Run c author content ts call → (machine c).Step call w m next w' →
      Run c author content (ts ++ [⟨call, m, w, w'⟩]) next

/-- One save succeeded, of the author's content, and gave the post its id. -/
def Recorded (author : UserId) (content : String) (id : PostId) (ts : List Turn) : Prop :=
  ∃ draft : Draft, ts.filterMap Turn.saved? = [(draft, id)] ∧ draft.author = author ∧
    draft.content = content

/-- No save succeeded, nothing was asked for beyond the save, and the world is as it was. -/
structure Untouched (c : Config) (ts : List Turn) : Prop where
  saved : ts.filterMap Turn.saved? = []
  asked : ∀ t ∈ ts, ∀ q ∈ t.call.questions c, q.request.early
  kept : ∀ t ∈ ts, t.after = t.before

/-- What a history has come to by a stage. -/
def Tells (c : Config) (author : UserId) (content : String) (ts : List Turn) : CreateStage → Prop
  | .lookingUp | .dating => Untouched c ts
  | .recording draft => Untouched c ts ∧ draft.author = author ∧ draft.content = content
  | .resolving post | .maintaining post .. | .naming post .. | .announcing post .. =>
    Recorded author content post.id ts
  | .spreading _ f => Recorded author content f.post.id ts
  | .finished r =>
    match recordedId? r with
    | some id => Recorded author content id ts
    | none => Untouched c ts
  | .broken => True

variable {c : Config} {author : UserId} {content : String} {ts : List Turn}

/-! ### One more turn -/

theorem early_of_question {call : Create} (he : call.stage.early) :
    ∀ q ∈ call.questions c, q.request.early := by
  intro q hq
  unfold questions question? at hq
  cases hs : call.stage with
  | lookingUp =>
    simp only [hs, Option.toList_some, List.mem_singleton] at hq
    rw [hq]
    rfl
  | dating =>
    simp only [hs, Option.toList_none, List.not_mem_nil] at hq
  | recording draft =>
    simp only [hs, Option.toList_some, List.mem_singleton] at hq
    rw [hq]
    rfl
  | _ =>
    rw [hs] at he
    cases he

theorem saved?_eq_none {call : Create} {m : Move} {w w' : World}
    (h : call.stage.early = true → ∀ id, m ≠ .recorded (.ok id)) :
    Turn.saved? ⟨call, m, w, w'⟩ = none := by
  unfold Turn.saved?
  split
  next draft id hd hm =>
    have he : call.stage.early = true := by
      rw [show call.stage = .recording draft from hd]
      rfl
    exact absurd hm (h he id)
  next => rfl

/-- A turn before the save, without it. -/
theorem Untouched.turn (h : Untouched c ts) {call : Create} {m : Move} (w : World)
    (he : call.stage.early) (hm : ∀ id, m ≠ .recorded (.ok id)) :
    Untouched c (ts ++ [⟨call, m, w, w⟩]) where
  saved := by
    rw [List.filterMap_append, h.saved, List.filterMap_cons_none (saved?_eq_none fun _ => hm)]
    rfl
  asked := by
    intro t ht
    rcases List.mem_append.mp ht with ht | ht
    · exact h.asked t ht
    · rw [List.mem_singleton.mp ht]
      exact early_of_question he
  kept := by
    intro t ht
    rcases List.mem_append.mp ht with ht | ht
    · exact h.kept t ht
    · rw [List.mem_singleton.mp ht]

/-- The turn of the save. -/
theorem Untouched.recorded (h : Untouched c ts) {call : Create} {draft : Draft} (id : PostId)
    (w w' : World) (hs : call.stage = .recording draft) (ha : draft.author = author)
    (hc : draft.content = content) :
    Recorded author content id (ts ++ [⟨call, .recorded (.ok id), w, w'⟩]) := by
  have hsaved : Turn.saved? ⟨call, .recorded (.ok id), w, w'⟩ = some (draft, id) := by
    simp only [Turn.saved?, hs]
  refine ⟨draft, ?_, ha, hc⟩
  rw [List.filterMap_append, h.saved, List.filterMap_cons_some hsaved]
  rfl

/-- A turn after the save. -/
theorem Recorded.turn {id : PostId} (h : Recorded author content id ts) {call : Create} (m : Move)
    (w w' : World) (he : call.stage.early = false) :
    Recorded author content id (ts ++ [⟨call, m, w, w'⟩]) := by
  obtain ⟨draft, hd, ha, hc⟩ := h
  have hnone : Turn.saved? ⟨call, m, w, w'⟩ = none :=
    saved?_eq_none fun he' => by rw [he] at he'; cases he'
  refine ⟨draft, ?_, ha, hc⟩
  rw [List.filterMap_append, hd, List.filterMap_cons_none hnone]
  rfl

/-! ### Stages that keep to a post -/

theorem tells_afterResolving {post : Post} (h : Recorded author content post.id ts)
    (followers : List UserId) : Tells c author content ts (afterResolving c post followers) := by
  unfold afterResolving
  split
  · exact h
  · split
    · exact trivial
    · exact h

theorem tells_upkeepStage {post : Post} (h : Recorded author content post.id ts) (n : Nat)
    (s : Spread) (waiting running : List UserId) :
    Tells c author content ts (upkeepStage post n s waiting running) := by
  unfold upkeepStage
  split <;> exact h

theorem tells_spreadStage {f f' : Fanout} {m : Fanout.Move} (hf : f.step? m = some f')
    (h : Recorded author content f.post.id ts) (followers : List UserId) :
    Tells c author content ts (spreadStage c followers f') := by
  rw [← Fanout.post_of_step hf] at h
  unfold spreadStage afterSpread
  split
  · split <;> exact h
  · exact h

/-! ### Steps and histories -/

theorem author_content_of_make {moment : Moment} {draft : Draft}
    (h : Draft.make author content moment = .ok draft) :
    draft.author = author ∧ draft.content = content := by
  unfold Draft.make at h
  cases hc : checkContent content with
  | ok _ =>
    rw [hc] at h
    cases h
    exact ⟨rfl, rfl⟩
  | error v =>
    rw [hc] at h
    cases h

/-- What a stage tells of the history before a move, the next stage tells of the history with it. -/
theorem tells_step {call : Create} {m : Move} {w w' : World} {before after : CreateStage}
    (hb : call.stage = before) (h : Tells c author content ts before)
    (hs : Course c author content w before m after w') :
    Tells c author content (ts ++ [⟨call, m, w, w'⟩]) after := by
  have untouched (he : before.early) (hm : ∀ id, m ≠ .recorded (.ok id)) (hu : Untouched c ts) :
      Untouched c (ts ++ [⟨call, m, w, w⟩]) := hu.turn w (hb ▸ he) hm
  have recorded {id : PostId} (he : before.early = false) (hr : Recorded author content id ts) :
      Recorded author content id (ts ++ [⟨call, m, w, w'⟩]) := hr.turn m w w' (hb ▸ he)
  cases hs with
  | known => exact untouched rfl nofun h
  | unknown => exact untouched rfl nofun h
  | notLookedUp e => exact untouched rfl nofun h
  | dated hd => exact ⟨untouched rfl nofun h, author_content_of_make hd⟩
  | invalid hv => exact untouched rfl nofun h
  | undated => exact trivial
  | recorded draft hid => exact h.1.recorded _ w _ hb h.2.1 h.2.2
  | notRecorded draft e => exact untouched rfl nofun h.1
  | resolved post followers => exact tells_afterResolving (recorded rfl h) _
  | notResolved post e => exact tells_afterResolving (recorded rfl h) _
  | spread followers hf hm => exact tells_spreadStage hf (recorded rfl h) followers
  | wrote followers ha hu hf => exact tells_spreadStage hf (recorded rfl h) followers
  | notWritten followers hf => exact tells_spreadStage hf (recorded rfl h) followers
  | maintain post n s u waiting running hlt => exact recorded rfl h
  | maintained post n s waiting now hu => exact tells_upkeepStage (recorded rfl h) n s _ _
  | notMaintained post n s waiting e hu => exact tells_upkeepStage (recorded rfl h) n s _ _
  | named post n s correlation hp => exact recorded rfl h
  | launched post n s correlation hp => exact recorded rfl h
  | announced post n s event => exact recorded rfl h
  | notAnnounced post n s event e => exact recorded rfl h
  | cancelledLookingUp => exact untouched rfl nofun h
  | cancelledRecording draft => exact untouched rfl nofun h.1
  | cancelledAnnouncing post n s event => exact recorded rfl h

/-- The author and the content of a call stay, and its stage tells of its history. -/
theorem tells_of_run {call : Create} (h : Run c author content ts call) :
    call.author = author ∧ call.content = content ∧ Tells c author content ts call.stage := by
  induction h with
  | start =>
    have hu : Untouched c [] :=
      ⟨rfl, fun t ht => absurd ht List.not_mem_nil, fun t ht => absurd ht List.not_mem_nil⟩
    exact ⟨rfl, rfl, hu⟩
  | turn hr hs ih =>
    obtain ⟨ha, hc, ht⟩ := ih
    obtain ⟨ha', hc', hcourse⟩ := course_of_step hs
    rw [ha, hc] at hcourse
    exact ⟨ha'.trans ha, hc'.trans hc, tells_step rfl ht hcourse⟩

/-- A move adds to the posts of the store what it saved. -/
theorem posts_of_course {call : Create} {m : Move} {w w' : World} {before after : CreateStage}
    (hb : call.stage = before) (hs : Course c author content w before m after w') :
    w'.store.posts = w.store.posts ++
      ((Turn.saved? ⟨call, m, w, w'⟩).map fun s => s.1.toPost s.2).toList := by
  have kept (hw : w'.store.posts = w.store.posts) (hm : ∀ id, m ≠ .recorded (.ok id)) :
      w'.store.posts = w.store.posts ++
        ((Turn.saved? ⟨call, m, w, w'⟩).map fun s => s.1.toPost s.2).toList := by
    rw [saved?_eq_none fun _ => hm, hw]
    exact (List.append_nil _).symm
  cases hs with
  | recorded draft hid => simp only [Turn.saved?, hb]; rfl
  | wrote followers ha hu hf => exact kept (Store.Memory.posts_write ..) nofun
  | maintained post n s waiting now hu =>
    refine kept ?_ nofun
    rw [World.store_upkeep]
  | _ => exact kept rfl nofun

theorem posts_of_run {call : Create} (h : Run c author content ts call) :
    ∀ t ∈ ts, t.after.store.posts = t.before.store.posts ++
      (t.saved?.map fun s => s.1.toPost s.2).toList := by
  induction h with
  | start => exact fun t ht => absurd ht List.not_mem_nil
  | turn hr hs ih =>
    intro t ht
    rcases List.mem_append.mp ht with ht | ht
    · exact ih t ht
    · rw [List.mem_singleton.mp ht]
      exact posts_of_course rfl (course_of_step hs).2.2

/-- **A result tells whether the post was recorded.** Whatever the peers answered, whenever they did
and whenever the caller cancelled: a result that names a post comes after exactly one save, which
was of the caller's author and content and gave the post that name. Any other result comes after no
save, of a call that asked for the author and the save at most and left the world as it was. Either
way the store has got the posts that were saved and no others. -/
theorem result_tells_recording {call : Create} {r : Except Failure PostId}
    (h : Run c author content ts call) (hr : call.result? = some r) :
    (match recordedId? r with
      | some id => Recorded author content id ts
      | none => Untouched c ts) ∧
      ∀ t ∈ ts, t.after.store.posts = t.before.store.posts ++
        (t.saved?.map fun s => s.1.toPost s.2).toList := by
  refine ⟨?_, posts_of_run h⟩
  have ht := (tells_of_run h).2.2
  unfold result? at hr
  split at hr
  next r' hs =>
    cases hr
    rw [hs] at ht
    exact ht
  next => cases hr

/-- A post without followers, cancelled while it is announced. -/
theorem result_tells_recording_of_cancelled :
    let c : Config := ⟨50, 100, 2000, 1000, .invalidate, .strict, ⟨50, 100⟩⟩
    ∃ ts call, Run c ⟨"alice"⟩ "hello" ts call ∧
      call.result? = some (.error (.cancelled (some ⟨.ofNat 1⟩))) ∧
      Recorded ⟨"alice"⟩ "hello" ⟨.ofNat 1⟩ ts := by
  intro c
  let w : World := ⟨.empty, .create .standard⟩
  let draft : Draft := ⟨⟨"alice"⟩, "hello", default⟩
  let stand (stage : CreateStage) : Create := ⟨⟨"alice"⟩, "hello", stage⟩
  have lookedUp : (machine c).Step (stand .lookingUp) w _ (stand .dating) w :=
    @Machine.Step.answered _ _ _ _ _ ⟨.userExists ⟨"alice"⟩, .lookedUp⟩ 0 (.ok true) _ _
      (List.mem_cons_self ..) rfl rfl
  have dated : (stand .dating).next? c (.dated (some default)) = some (.recording draft) := by
    have hc : checkContent "hello" = .ok () := by
      rw [checkContent, if_neg (by decide), if_neg (by decide)]
    simp only [next?, stand, Draft.make, hc]
    rfl
  have recorded : (machine c).Step (stand (.recording draft)) w _ _ _ :=
    @Machine.Step.answered _ _ _ _ _ ⟨.save draft, .recorded⟩ 0 (.ok ⟨.ofNat 1⟩) _ _
      (List.mem_cons_self ..) rfl rfl
  have resolved : (machine c).Step (stand (.resolving (draft.toPost ⟨.ofNat 1⟩))) w _ _ w :=
    @Machine.Step.answered _ _ _ _ _ ⟨.followers ⟨"alice"⟩, .resolved⟩ 0 (.ok []) _ _
      (List.mem_cons_self ..) rfl rfl
  have own {stage next : CreateStage} (m : Move) (hm : m.own)
      (h : (stand stage).next? c m = some next) :
      (machine c).Step (stand stage) w m (stand next) w :=
    .own hm (congrArg (Option.map stand) h)
  have run := Run.start
    |>.turn lookedUp
    |>.turn (own (.dated (some default)) rfl dated)
    |>.turn recorded
    |>.turn resolved
    |>.turn (own (.named (.ofNat 2)) rfl rfl)
    |>.turn (own .cancelled rfl rfl)
  exact ⟨_, _, run, rfl, (result_tells_recording run rfl).1⟩

end Create
end Timelines.Service
