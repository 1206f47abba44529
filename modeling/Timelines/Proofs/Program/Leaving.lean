import Mathlib.Logic.Relation
import Timelines.Proofs.Service.Retrying

/-! A process that posts, and goes.

The process makes its call, prints the id of the post and leaves, while retries that the call set
going are under way. It does not wait for them, and once it has left none of them goes on.
`Posting` is such a process; the caller's cancelling, the call, the retries and the printing take
turns in any order.

`announcement_of_left`: where the announcement is waited for, the publisher accepted it before the
process left. Where it is left to the background, the process may leave at any stage of the retry,
even before the first attempt: `left_not_always_announced`. -/
namespace Timelines.Service

/-! ### The moves of a retry -/

/-- A retry as it was when it was set going. -/
def Retry.fresh (r : Retry) : Retry := .start r.event r.maxAttempts r.backoff

def Tries.fresh (t : Tries) : Tries := ⟨t.retry.fresh, []⟩

namespace Tries
variable {outcomes : Nat → Except PublishError Unit} {event : Event} {maxAttempts backoff : Nat}

theorem fresh_of_moves {t t' : Tries} (h : Moves outcomes t t') : t'.fresh = t.fresh := by
  obtain ⟨m, next, ⟨⟨w, w', hs⟩, -⟩, rfl⟩ := h
  have hnext := (Retry.course_of_step hs).1
  unfold fresh Retry.fresh
  rw [hnext]

theorem refused_last {n : Nat} (h : Retry.Refused outcomes (n + 1)) :
    ∃ e, outcomes n = .error e := by
  have hn := h n (Nat.lt_succ_self n)
  cases hout : outcomes n with
  | ok _ =>
    rw [hout] at hn
    cases hn
  | error e => exact ⟨e, rfl⟩

/-- A retry comes to each of the stages that the outcomes have for it. -/
theorem moves_of_tried {acts : List Retry.Act} {stage : RetryStage}
    (hfit : ∀ n < maxAttempts, backoff * n / 1000 < Number.Word.count 64)
    (h : Retry.Tried outcomes event maxAttempts backoff acts stage) :
    Relation.ReflTransGen (Moves outcomes) ⟨.start event maxAttempts backoff, []⟩
      ⟨⟨event, maxAttempts, backoff, stage⟩, acts⟩ := by
  have hattempting (n : Nat) (hn : n < maxAttempts) (hrefused : Retry.Refused outcomes n) :
      Relation.ReflTransGen (Moves outcomes) ⟨.start event maxAttempts backoff, []⟩
        ⟨⟨event, maxAttempts, backoff, .attempting (n + 1)⟩,
          Retry.rounds outcomes event maxAttempts backoff n⟩ := by
    induction n with
    | zero => exact .refl
    | succ n ih =>
      obtain ⟨e, he⟩ := refused_last hrefused
      have hbefore := ih (Nat.lt_of_succ_lt hn) fun i hi => hrefused i (Nat.lt_succ_of_lt hi)
      have hpausing := hbefore.tail (moves_refused (Retry.attempts_rounds n) he hn (hfit _ hn))
      rw [Retry.rounds_succ, Retry.round, ← List.append_assoc]
      exact hpausing.tail (moves_rested (hfit _ hn))
  cases h with
  | attempting hn hrefused => exact hattempting _ hn hrefused
  | pausing hn hrefused he =>
    exact (hattempting _ (Nat.lt_of_succ_lt hn) hrefused).tail
      (moves_refused (Retry.attempts_rounds _) he hn (hfit _ hn))
  | accepted hn hrefused hok =>
    exact (hattempting _ hn hrefused).tail (moves_accepted (Retry.attempts_rounds _) hok)
  | exhausted hn hrefused he =>
    exact (hattempting _ (by omega) hrefused).tail
      (moves_exhausted (Retry.attempts_rounds _) he hn)

end Tries

/-! ### What a call that succeeded has done for its announcement -/

theorem Create.fresh_of_launched {c : Config} {call : Create} {m : Create.Move} {r : Retry}
    (h : call.launched? c m = some r) : r.fresh = r := by
  unfold Create.launched? at h
  split at h
  · split at h
    · cases h
      rfl
    · cases h
  · cases h

/-- A call that succeeded recorded one post. Its event was accepted, or left to a retry. -/
theorem Create.Account.announced_of_ok {c : Config} {author : UserId} {content : String} {l : Log}
    {id : PostId} (h : Create.Account c author content l (.finished (.ok id))) :
    ∃ post correlation, l.posts = [post] ∧ post.id = id ∧
      match c.publish with
      | .strict => l.accepted = [.announcing post correlation] ∧ l.launched = []
      | .bestEffort maxAttempts backoff =>
        l.accepted = [] ∧
          l.launched = [.start (.announcing post correlation) maxAttempts backoff] := by
  cases h with
  | unsaved _ hid => cases hid
  | @launched t s upkept attempts backoff correlation _ hp =>
    refine ⟨t.post, correlation, rfl, rfl, ?_⟩
    rw [hp]
    exact ⟨rfl, rfl⟩
  | @announced t s upkept correlation _ hp =>
    refine ⟨t.post, correlation, rfl, rfl, ?_⟩
    rw [hp]
    exact ⟨rfl, rfl⟩

end Timelines.Service

namespace Timelines.Program
open Service

/-! ### The process -/

/-- How far the process has come beside its call. -/
inductive Main
  | waiting
  | printed (id : PostId)
  | left (id : PostId)
  | failed (failure : Service.Failure)

/-- The process has not left: its tasks can go on. -/
def Main.here : Main → Bool
  | waiting | printed _ => true
  | left _ | failed _ => false

/-- A process that posts, with the history of its call. -/
structure Posting where
  turns : List Turn
  sending : Sending
  main : Main

namespace Posting

/-- The process is interrupted, its call or a retry makes a move, or it comes nearer to its end. -/
inductive Step (c : Config) (outcomes : Nat → Except PublishError Unit) (s : Posting) :
    Posting → Prop
  | interrupt : s.main.here →
      Step c outcomes s { s with sending := { s.sending with cancelled := true } }
  | calling {m : Create.Move} {next : Create} {w w' : World} : s.main.here →
      s.sending.call.heeds s.sending.cancelled m →
      (Create.machine c).Step s.sending.call w m next w' →
      Step c outcomes s
        { s with
          turns := s.turns ++ [⟨s.sending.call, m, w, w'⟩]
          sending :=
            { s.sending with
              call := next
              retries := s.sending.retries ++
                ((s.sending.call.launched? c m).map (⟨·, []⟩)).toList } }
  | retrying {n : Nat} {t t' : Tries} : s.main.here → s.sending.retries[n]? = some t →
      t.Moves outcomes t' →
      Step c outcomes s
        { s with sending := { s.sending with retries := s.sending.retries.set n t' } }
  | print {id : PostId} : s.main = .waiting → s.sending.call.result? = some (.ok id) →
      Step c outcomes s { s with main := .printed id }
  | fail {failure : Service.Failure} : s.main = .waiting →
      s.sending.call.result? = some (.error failure) →
      Step c outcomes s { s with main := .failed failure }
  | leave {id : PostId} : s.main = .printed id → Step c outcomes s { s with main := .left id }

/-- How far a process can have come. -/
inductive Reachable (c : Config) (author : UserId) (content : String)
    (outcomes : Nat → Except PublishError Unit) : Posting → Prop
  | start : Reachable c author content outcomes ⟨[], ⟨.start author content, false, []⟩, .waiting⟩
  | step {s s' : Posting} : Reachable c author content outcomes s → Step c outcomes s s' →
      Reachable c author content outcomes s'

variable {c : Config} {author : UserId} {content : String}
  {outcomes : Nat → Except PublishError Unit} {maxAttempts backoff : Nat} {s s' : Posting}

namespace Reachable

theorem watched (h : Reachable c author content outcomes s) :
    Create.Watched c author content s.turns s.sending.cancelled s.sending.call := by
  induction h with
  | start => exact .start
  | step _ hs ih =>
    cases hs with
    | interrupt _ => exact ih.cancel
    | calling _ hm hs => exact ih.turn hm hs
    | _ => exact ih

theorem sends (h : Reachable c author content outcomes s) :
    Sending.Reachable c author content outcomes s.sending := by
  induction h with
  | start => exact .start
  | step _ hs ih =>
    cases hs with
    | interrupt _ => exact ih.step .cancel
    | calling _ hm hs => exact ih.step (.calling hm hs)
    | retrying _ ht hmoves =>
      obtain ⟨m, next, hdoes, rfl⟩ := hmoves
      exact ih.step (.retrying ht hdoes)
    | _ => exact ih

end Reachable

/-! ### Rewinding -/

/-- Nothing changes where one of a list is set to what a function does not tell from it. -/
theorem map_set_of_eq {α β : Type} {f : α → β} {xs : List α} {n : Nat} {x y : α}
    (hx : xs[n]? = some x) (hf : f y = f x) : (xs.set n y).map f = xs.map f := by
  obtain ⟨hn, rfl⟩ := List.getElem?_eq_some_iff.mp hx
  have hmap : n < (xs.map f).length := by rwa [List.length_map]
  have hget : f xs[n] = (xs.map f)[n] := (List.getElem_map f).symm
  rw [List.map_set, hf, hget, List.set_getElem_self]

/-- The process before it left, with its retries as they were set going. -/
def rewound (s : Posting) : Posting :=
  { s with
    sending := { s.sending with retries := s.sending.retries.map Tries.fresh }
    main :=
      match s.main with
      | .left id => .printed id
      | .failed _ => .waiting
      | main => main }

theorem here_rewound (s : Posting) : s.rewound.main.here := by
  unfold rewound
  cases s.main <;> rfl

theorem rewound_of_here (h : s.main.here) : s.rewound.main = s.main := by
  unfold rewound
  cases hmain : s.main with
  | waiting | printed id => rfl
  | left id | failed f =>
    rw [hmain] at h
    cases h

theorem fresh_launched (call : Create) (m : Create.Move) :
    (((call.launched? c m).map (⟨·, []⟩)).toList).map Tries.fresh =
      ((call.launched? c m).map (⟨·, []⟩)).toList := by
  cases hl : call.launched? c m with
  | none => rfl
  | some r =>
    show [Tries.mk r.fresh []] = [Tries.mk r []]
    rw [Create.fresh_of_launched hl]

/-- What a retry does makes no difference to the rest of the process: it could as well have waited.
-/
theorem Reachable.rewound (h : Reachable c author content outcomes s) :
    Reachable c author content outcomes s.rewound := by
  induction h with
  | start => exact .start
  | @step s s' _ hs ih =>
    cases hs with
    | interrupt hhere => exact ih.step (.interrupt s.here_rewound)
    | calling hhere hm hs =>
      have hstep := ih.step (.calling s.here_rewound hm hs)
      unfold Posting.rewound at hstep ⊢
      rw [List.map_append, fresh_launched]
      exact hstep
    | retrying hhere ht hmoves =>
      unfold Posting.rewound at ih ⊢
      rw [map_set_of_eq ht (Tries.fresh_of_moves hmoves)]
      exact ih
    | print hmain hresult =>
      refine ih.step (.print ?_ hresult)
      rw [rewound_of_here (by rw [hmain]; rfl), hmain]
    | fail hmain hresult =>
      unfold Posting.rewound at ih ⊢
      rw [hmain] at ih
      exact ih
    | leave hmain =>
      unfold Posting.rewound at ih ⊢
      rw [hmain] at ih
      exact ih

/-! ### What is done when the process leaves -/

/-- The retries of a process are those that its call set going. -/
theorem Reachable.launched (h : Reachable c author content outcomes s) :
    s.sending.retries.map (·.retry.fresh) = (Create.log c author content s.turns).launched := by
  induction h with
  | start => rfl
  | @step s s' h hs ih =>
    cases hs with
    | @calling m next w w' hhere hm hs =>
      show (s.sending.retries ++ _).map _ = (Create.log c author content (s.turns ++ _)).launched
      rw [Create.log_turn hs, List.map_append, ih]
      refine congrArg _ ?_
      cases hl : s.sending.call.launched? c m with
      | none => rfl
      | some r => exact congrArg (fun r => [r]) (Create.fresh_of_launched hl)
    | retrying _ ht hmoves =>
      have hfresh := congrArg Tries.retry (Tries.fresh_of_moves hmoves)
      exact (map_set_of_eq ht hfresh).trans ih
    | _ => exact ih

/-- What was printed is what the call gave. -/
theorem Reachable.result (h : Reachable c author content outcomes s) {id : PostId}
    (hmain : s.main = .printed id ∨ s.main = .left id) :
    s.sending.call.result? = some (.ok id) := by
  induction h generalizing id with
  | start => rcases hmain with hmain | hmain <;> cases hmain
  | step _ hs ih =>
    cases hs with
    | interrupt _ => exact ih hmain
    | calling _ _ hs =>
      obtain ⟨-, -, hc⟩ := Create.course_of_step hs
      have hresult := Create.stage_of_result (ih hmain)
      rw [hresult] at hc
      cases hc
    | retrying _ _ _ => exact ih hmain
    | print hwaiting hresult =>
      rcases hmain with hmain | hmain <;> cases hmain
      exact hresult
    | fail _ _ => rcases hmain with hmain | hmain <;> cases hmain
    | leave hprinted =>
      rcases hmain with hmain | hmain <;> cases hmain
      exact ih (.inl hprinted)

theorem Reachable.moves {t t' : Tries} (h : Reachable c author content outcomes s)
    (hhere : s.main.here) (hone : s.sending.retries = [t])
    (hmoves : Relation.ReflTransGen (Tries.Moves outcomes) t t') :
    Reachable c author content outcomes
      { s with sending := { s.sending with retries := [t'] } } := by
  induction hmoves with
  | refl =>
    rw [← hone]
    exact h
  | tail _ hm ih => exact ih.step (.retrying (n := 0) hhere rfl hm)

/-- A process that has printed may leave with its retry at any stage that the outcomes have for it.
-/
theorem Reachable.leaves_at {id : PostId} {event : Event} {acts : List Retry.Act}
    {stage : RetryStage} (h : Reachable c author content outcomes s) (hleft : s.main = .left id)
    (hone : s.sending.retries.map Tries.fresh = [⟨.start event maxAttempts backoff, []⟩])
    (hfit : ∀ n < maxAttempts, backoff * n / 1000 < Number.Word.count 64)
    (htried : Retry.Tried outcomes event maxAttempts backoff acts stage) :
    ∃ s', Reachable c author content outcomes s' ∧ s'.main = .left id ∧ s'.turns = s.turns ∧
      s'.sending.retries = [⟨⟨event, maxAttempts, backoff, stage⟩, acts⟩] := by
  have hprinted : s.rewound.main = .printed id := by
    unfold Posting.rewound
    rw [hleft]
  have hmoved := h.rewound.moves s.here_rewound hone (Tries.moves_of_tried hfit htried)
  exact ⟨_, hmoved.step (.leave hprinted), rfl, rfl, rfl⟩

/-- **What has become of a post's announcement when the process has left.** The process printed the
id of the one post that its call recorded. If the announcement was waited for, the publisher
accepted the post's event. If it was left to the background, one retry was set going and is of that
event; and what it has done may be whatever it does by any stage, from no attempt at all to the
last. -/
theorem announcement_of_left (hw : 0 < c.bounds.workers)
    (h : Reachable c author content outcomes s) {id : PostId} (hleft : s.main = .left id) :
    let l := Create.log c author content s.turns
    ∃ post correlation, l.posts = [post] ∧ post.id = id ∧
      match c.publish with
      | .strict => l.accepted = [.announcing post correlation] ∧ s.sending.retries = []
      | .bestEffort maxAttempts backoff =>
        let event := .announcing post correlation
        (∃ t, s.sending.retries = [t] ∧ t.retry.fresh = .start event maxAttempts backoff) ∧
          (0 < maxAttempts → (∀ n < maxAttempts, backoff * n / 1000 < Number.Word.count 64) →
            ∀ acts stage, (∃ s', Reachable c author content outcomes s' ∧ s'.main = .left id ∧
                s'.turns = s.turns ∧
                s'.sending.retries = [⟨⟨event, maxAttempts, backoff, stage⟩, acts⟩]) ↔
              Retry.Tried outcomes event maxAttempts backoff acts stage) := by
  intro l
  have hstage := Create.stage_of_result (h.result (.inr hleft))
  have haccount := Create.account_of_run hw h.watched.run
  rw [hstage] at haccount
  obtain ⟨post, correlation, hposts, hid, hannounced⟩ := haccount.announced_of_ok
  refine ⟨post, correlation, hposts, hid, ?_⟩
  have hlaunched := h.launched
  cases hp : c.publish with
  | strict =>
    rw [hp] at hannounced
    obtain ⟨haccepted, hnone⟩ := hannounced
    exact ⟨haccepted, List.map_eq_nil_iff.mp (hlaunched.trans hnone)⟩
  | bestEffort maxAttempts backoff =>
    rw [hp] at hannounced
    obtain ⟨t, hone, hfresh⟩ := List.map_eq_singleton_iff.mp (hlaunched.trans hannounced.2)
    refine ⟨⟨t, hone, hfresh⟩, fun hmax hfit acts stage => ⟨?_, fun htried => ?_⟩⟩
    · rintro ⟨s', h', -, -, hretries⟩
      rcases Sending.sent_of_reachable hp hmax hfit h'.sends with hnone | hsome
      · rw [hnone] at hretries
        cases hretries
      · obtain ⟨t', post', correlation', hone', -, hretry, htried⟩ := hsome
        rw [hone'] at hretries
        cases hretries
        have hevent : Event.announcing post correlation = .announcing post' correlation' :=
          congrArg Retry.event hretry
        rw [hevent]
        exact htried
    · refine h.leaves_at hleft ?_ hfit htried
      rw [hone]
      exact congrArg (fun r => [Tries.mk r []]) hfresh

/-! ### A process that leaves at once -/

theorem exists_of_watched (outcomes : Nat → Except PublishError Unit) {ts : List Turn}
    {cancelled : Bool} {call : Create} (h : Create.Watched c author content ts cancelled call) :
    ∃ retries, Reachable c author content outcomes ⟨ts, ⟨call, cancelled, retries⟩, .waiting⟩ := by
  induction h with
  | start => exact ⟨[], .start⟩
  | cancel _ ih =>
    obtain ⟨retries, ih⟩ := ih
    exact ⟨retries, ih.step (.interrupt rfl)⟩
  | turn _ hm hs ih =>
    obtain ⟨retries, ih⟩ := ih
    exact ⟨_, ih.step (.calling rfl hm hs)⟩

/-- A post without followers, announced in the background: the process may be gone before the first
attempt. -/
theorem exists_left_before_attempt (outcomes : Nat → Except PublishError Unit) :
    let c : Config := ⟨50, 100, 2000, 1000, .invalidate, .bestEffort 3 200, ⟨50, 100⟩⟩
    ∃ s, Reachable c ⟨"alice"⟩ "hello" outcomes s ∧ s.main = .left ⟨.ofNat 1⟩ ∧
      (Create.log c ⟨"alice"⟩ "hello" s.turns).accepted = [] ∧
      ∀ t ∈ s.sending.retries, t.retry.stage = .attempting 1 := by
  intro c
  obtain ⟨ts, -, resolved, -⟩ := Create.watched_resolved c (.create .standard) []
  have launched := resolved.own (.named (.ofNat 2)) ⟨.empty, .create .standard⟩ rfl rfl rfl
  obtain ⟨retries, hcalled⟩ := exists_of_watched outcomes launched
  have hleft := (hcalled.step (.print rfl rfl)).rewound.step (.leave rfl)
  obtain ⟨post, correlation, -, -, haccepted, -⟩ :=
    (Create.account_of_run (by decide) hleft.watched.run).announced_of_ok
  refine ⟨_, hleft, rfl, haccepted, ?_⟩
  intro t ht
  obtain ⟨t', -, rfl⟩ := List.mem_map.mp ht
  rfl

/-- The event of a post was accepted, or a retry of it is over. -/
def Announced (c : Config) (author : UserId) (content : String) (s : Posting) (id : PostId) :
    Prop :=
  (∃ e ∈ (Create.log c author content s.turns).accepted, e.post.id = id.uuid) ∨
    ∃ t ∈ s.sending.retries, t.retry.event.post.id = id.uuid ∧ t.retry.ended

/-- It is not so that a post is always announced by the time that the process has left. -/
theorem left_not_always_announced :
    ¬∀ (c : Config) (author : UserId) (content : String)
      (outcomes : Nat → Except PublishError Unit) (s : Posting) (id : PostId),
      0 < c.bounds.workers →
      (∀ maxAttempts backoff, c.publish = .bestEffort maxAttempts backoff → 0 < maxAttempts ∧
        ∀ n < maxAttempts, backoff * n / 1000 < Number.Word.count 64) →
      Reachable c author content outcomes s → s.main = .left id →
      Announced c author content s id := by
  intro hall
  obtain ⟨s, h, hleft, haccepted, hstages⟩ :=
    exists_left_before_attempt fun _ => .ok ()
  have hpolicy (maxAttempts backoff : Nat)
      (hp : PublishPolicy.bestEffort 3 200 = .bestEffort maxAttempts backoff) :
      0 < maxAttempts ∧ ∀ n < maxAttempts, backoff * n / 1000 < Number.Word.count 64 := by
    cases hp
    decide
  rcases hall _ _ _ _ s _ (by decide) hpolicy h hleft with ⟨e, he, -⟩ | ⟨t, ht, -, hended⟩
  · rw [haccepted] at he
    cases he
  · unfold Retry.ended at hended
    rw [hstages t ht] at hended
    rcases hended with hended | hended <;> cases hended

/-- The publisher would accept at once, and is not asked. -/
theorem announcement_of_left_before_attempt :
    let c : Config := ⟨50, 100, 2000, 1000, .invalidate, .bestEffort 3 200, ⟨50, 100⟩⟩
    let outcomes : Nat → Except PublishError Unit := fun _ => .ok ()
    ∃ s post correlation, Reachable c ⟨"alice"⟩ "hello" outcomes s ∧
      s.main = .left ⟨.ofNat 1⟩ ∧ post.id = ⟨.ofNat 1⟩ ∧
      s.sending.retries.map (·.retry) = [.start (.announcing post correlation) 3 200] := by
  intro c outcomes
  obtain ⟨s, h, hleft, -, hstages⟩ := exists_left_before_attempt outcomes
  obtain ⟨post, correlation, -, hid, ⟨t, hone, hfresh⟩, -⟩ :=
    announcement_of_left (by decide) h hleft
  refine ⟨s, post, correlation, h, hleft, hid, ?_⟩
  have hstage := hstages t (by rw [hone]; exact List.mem_singleton_self t)
  rw [hone, ← hfresh, List.map_singleton, Retry.fresh, Retry.start, ← hstage]

end Posting
end Timelines.Program
