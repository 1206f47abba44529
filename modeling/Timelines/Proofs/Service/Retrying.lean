import Mathlib.Data.ENat.Lattice
import Timelines.Proofs.Service.Cancelling

/-! Publishing in the background.

A call whose policy is the best effort leaves its event to a retry and ends. From then on the retry
and the caller go on side by side: the caller may cancel at any time, and the publisher answers the
attempts one after the other as it likes, told as a sequence of outcomes that never ends. `Sending`
is such a call with the retries that it set going, each with all that it did.

`attempts_until_accepted`: the attempts go on up to the first that is accepted, or to the most that
may be made, and the event is the same each time. What a retry does follows from the outcomes alone,
so that the caller's cancelling is no part of it. -/
namespace Timelines.Service
open Report

namespace Retry

def Move.own : Move → Bool
  | .rested => true
  | .published _ => false

def machine : Machine Retry Move where
  step? := step?
  questions := fun r => r.question?.toList
  own := Move.own

/-- The stage after an attempt that was refused. -/
def refusedStage (r : Retry) (attempt : Nat) : RetryStage :=
  if attempt < r.maxAttempts then
    if (r.pause? attempt).isSome then .pausing attempt else .broken
  else .exhausted

/-- The steps of a retry: by a move from a stage to the next. -/
inductive Course (r : Retry) : RetryStage → Move → RetryStage → Prop
  | accepted (n : Nat) : Course r (.attempting n) (.published (.ok ())) .accepted
  | refused (n : Nat) (e : PublishError) :
      Course r (.attempting n) (.published (.error e)) (r.refusedStage n)
  | rested (n : Nat) : Course r (.pausing n) .rested (.attempting (n + 1))

theorem course_of_step? {r next : Retry} {m : Move} (h : r.step? m = some next) :
    next = { r with stage := next.stage } ∧ r.Course r.stage m next.stage := by
  cases m with
  | published reply =>
    simp only [step?] at h
    split at h
    next n hs =>
      cases h
      exact ⟨rfl, hs ▸ .accepted n⟩
    next n e hs =>
      have hnext : next = { r with stage := r.refusedStage n } := by
        unfold refusedStage
        split at h
        next hn =>
          rw [if_pos hn]
          exact (Option.some.inj h).symm
        next hn =>
          rw [if_neg hn]
          exact (Option.some.inj h).symm
      rw [hnext]
      exact ⟨rfl, hs ▸ .refused n e⟩
    next => cases h
  | rested =>
    simp only [step?] at h
    split at h
    next n hs =>
      cases h
      exact ⟨rfl, hs ▸ .rested n⟩
    next => cases h

theorem course_of_step {r next : Retry} {m : Move} {w w' : World}
    (h : machine.Step r w m next w') :
    next = { r with stage := next.stage } ∧ r.Course r.stage m next.stage := by
  cases h with
  | own _ hs => exact course_of_step? hs
  | answered _ _ hs => exact course_of_step? hs

theorem exists_step? (r : Retry) {n : Nat} (hs : r.stage = .attempting n)
    (reply : Except PublishError Unit) : ∃ next, r.step? (.published reply) = some next := by
  cases reply with
  | ok _ => exact ⟨{ r with stage := .accepted }, by simp only [step?, hs]⟩
  | error e =>
    simp only [step?, hs]
    split <;> exact ⟨_, rfl⟩

/-! ### What a retry does -/

inductive Act
  /-- The publisher was given an event. -/
  | published (event : Event)
  /-- A pause went by. -/
  | rested (ms : Nat)
  | reported (report : Report)
  deriving DecidableEq

/-- What a retry does by a move. -/
def acts (r : Retry) (m : Move) : List Act :=
  (match r.stage, m with
    | .attempting _, .published _ => [.published r.event]
    | .pausing n, .rested => ((r.pause? n).map .rested).toList
    | _, _ => []) ++ (r.reports m).map .reported

namespace Act

def report? : Act → Option Report
  | reported report => some report
  | _ => none

def attempt : Act → Bool
  | published _ => true
  | _ => false

end Act

/-- What was reported. -/
def reportsOf (acts : List Act) : List Report := acts.filterMap Act.report?

/-- The attempts and the pauses. -/
def doings (acts : List Act) : List Act := acts.filter (·.report?.isNone)

/-- How many attempts were made. -/
def attempts (acts : List Act) : Nat := acts.countP Act.attempt

/-- The attempts are over. -/
def ended (r : Retry) : Prop := r.stage = .accepted ∨ r.stage = .exhausted

/-! ### Outcomes -/

section Outcomes
variable (outcomes : Nat → Except PublishError Unit)

/-- The publisher refuses the first `n` attempts. -/
def Refused (n : Nat) : Prop := ∀ i < n, (outcomes i).isOk = false

instance (n : Nat) : Decidable (Refused outcomes n) :=
  inferInstanceAs (Decidable (∀ i < n, (outcomes i).isOk = false))

/-- The number of the first attempt that the publisher accepts, counted from one. -/
noncomputable def firstAccepted : ℕ∞ := ⨅ (i : Nat) (_ : (outcomes i).isOk), (i + 1 : ℕ∞)

/-- The warning of an attempt, if it is refused. -/
def warning (event : Event) (maxAttempts i : Nat) : List Report :=
  match outcomes i with
  | .ok () => []
  | .error e => [.note (.publishFailed event.post.id (i + 1) maxAttempts e.message)]

/-- What is reported once no attempt is left. -/
def dropped (event : Event) : List Report :=
  [.count .publishFailures, .note (.eventDropped event.post.id)]

variable {outcomes}

theorem refused_succ {n : Nat} {e : PublishError} (h : Refused outcomes n)
    (he : outcomes n = .error e) : Refused outcomes (n + 1) := by
  intro i hi
  rcases Nat.lt_succ_iff_lt_or_eq.mp hi with hi | rfl
  · exact h i hi
  · rw [he]
    rfl

theorem le_firstAccepted {n : Nat} (h : Refused outcomes n) :
    ((n + 1 : Nat) : ℕ∞) ≤ firstAccepted outcomes := by
  refine le_iInf₂ fun i hi => ?_
  have hn : n ≤ i := Nat.not_lt.mp fun hlt => absurd (hi.symm.trans (h i hlt)) nofun
  exact_mod_cast Nat.succ_le_succ hn

theorem firstAccepted_eq {n : Nat} (h : Refused outcomes n) (ha : outcomes n = .ok ()) :
    firstAccepted outcomes = ((n + 1 : Nat) : ℕ∞) := by
  refine le_antisymm (iInf₂_le_of_le n (by rw [ha]; rfl) ?_) (le_firstAccepted h)
  exact_mod_cast le_rfl

/-! ### How far a retry has come -/

/-- An attempt that is refused, and the pause after it. -/
def round (outcomes : Nat → Except PublishError Unit) (event : Event)
    (maxAttempts backoff i : Nat) : List Act :=
  .published event :: (warning outcomes event maxAttempts i).map .reported ++
    [.rested (backoff * (i + 1))]

/-- Refused attempts, each with its pause. -/
def rounds (outcomes : Nat → Except PublishError Unit) (event : Event)
    (maxAttempts backoff n : Nat) : List Act :=
  (List.range n).flatMap (round outcomes event maxAttempts backoff)

/-- What the retry of an event has done by a stage. -/
inductive Tried (outcomes : Nat → Except PublishError Unit) (event : Event)
    (maxAttempts backoff : Nat) : List Act → RetryStage → Prop
  | attempting {n : Nat} : n < maxAttempts → Refused outcomes n →
      Tried outcomes event maxAttempts backoff (rounds outcomes event maxAttempts backoff n)
        (.attempting (n + 1))
  | pausing {n : Nat} {e : PublishError} : n + 1 < maxAttempts → Refused outcomes n →
      outcomes n = .error e →
      Tried outcomes event maxAttempts backoff
        (rounds outcomes event maxAttempts backoff n ++
          .published event :: (warning outcomes event maxAttempts n).map .reported)
        (.pausing (n + 1))
  | accepted {n : Nat} : n < maxAttempts → Refused outcomes n → outcomes n = .ok () →
      Tried outcomes event maxAttempts backoff
        (rounds outcomes event maxAttempts backoff n ++
          .published event :: (warning outcomes event maxAttempts n).map .reported) .accepted
  | exhausted {n : Nat} {e : PublishError} : n + 1 = maxAttempts → Refused outcomes n →
      outcomes n = .error e →
      Tried outcomes event maxAttempts backoff
        (rounds outcomes event maxAttempts backoff n ++ .published event ::
          (warning outcomes event maxAttempts n ++ dropped event).map .reported)
        .exhausted

variable {event : Event} {maxAttempts backoff : Nat}

theorem rounds_succ (n : Nat) : rounds outcomes event maxAttempts backoff (n + 1) =
    rounds outcomes event maxAttempts backoff n ++ round outcomes event maxAttempts backoff n := by
  rw [rounds, List.range_succ, List.flatMap_append, List.flatMap_singleton]
  rfl

/-! What a list of acts holds, read off its parts. -/

theorem attempts_append (a b : List Act) : attempts (a ++ b) = attempts a + attempts b :=
  List.countP_append ..

theorem doings_append (a b : List Act) : doings (a ++ b) = doings a ++ doings b :=
  List.filter_append ..

theorem reportsOf_append (a b : List Act) : reportsOf (a ++ b) = reportsOf a ++ reportsOf b :=
  List.filterMap_append ..

theorem attempts_reported (rs : List Report) : attempts (rs.map .reported) = 0 := by
  simp [attempts, List.countP_map, Function.comp_def, Act.attempt]

theorem doings_reported (rs : List Report) : doings (rs.map .reported) = [] := by
  simp [doings, Act.report?]

theorem reportsOf_reported (rs : List Report) : reportsOf (rs.map .reported) = rs := by
  simp [reportsOf, List.filterMap_map, Function.comp_def, Act.report?]

theorem attempts_round (rs : List Report) :
    attempts (.published event :: rs.map .reported) = 1 := by
  rw [attempts, List.countP_cons_of_pos rfl, ← attempts, attempts_reported]

theorem doings_round (rs : List Report) :
    doings (.published event :: rs.map .reported) = [.published event] := by
  rw [doings, List.filter_cons_of_pos rfl, ← doings, doings_reported]

theorem reportsOf_round (rs : List Report) :
    reportsOf (.published event :: rs.map .reported) = rs := by
  rw [reportsOf, List.filterMap_cons_none rfl, ← reportsOf, reportsOf_reported]

theorem attempts_rounds (n : Nat) :
    attempts (rounds outcomes event maxAttempts backoff n) = n := by
  induction n with
  | zero => rfl
  | succ n ih =>
    rw [rounds_succ, attempts_append, ih, round, attempts_append, attempts_round]
    rfl

theorem doings_rounds (n : Nat) :
    doings (rounds outcomes event maxAttempts backoff n) =
      (List.range n).flatMap fun i => [.published event, .rested (backoff * (i + 1))] := by
  induction n with
  | zero => rfl
  | succ n ih =>
    rw [rounds_succ, doings_append, ih, round, doings_append, doings_round, List.range_succ,
      List.flatMap_append, List.flatMap_singleton]
    rfl

theorem reportsOf_rounds (n : Nat) :
    reportsOf (rounds outcomes event maxAttempts backoff n) =
      (List.range n).flatMap (warning outcomes event maxAttempts) := by
  induction n with
  | zero => rfl
  | succ n ih =>
    rw [rounds_succ, reportsOf_append, ih, round, reportsOf_append, reportsOf_round,
      List.range_succ, List.flatMap_append, List.flatMap_singleton]
    exact congrArg _ (List.append_nil _)

theorem acts_refused {n : Nat} {e : PublishError} (stage : RetryStage)
    (hs : stage = .attempting (n + 1)) (he : outcomes n = .error e) :
    acts ⟨event, maxAttempts, backoff, stage⟩ (.published (.error e)) = .published event ::
      (warning outcomes event maxAttempts n ++
        if n + 1 < maxAttempts then [] else dropped event).map .reported := by
  subst hs
  rw [warning, he]
  rfl

theorem acts_rested {n : Nat} (stage : RetryStage) (hs : stage = .pausing n)
    (hfit : backoff * n / 1000 < Number.Word.count 64) :
    acts ⟨event, maxAttempts, backoff, stage⟩ .rested = [.rested (backoff * n)] := by
  subst hs
  simp only [acts, pause?, if_pos hfit]
  rfl

/-- One move more. An attempt is answered by the next of the outcomes. -/
theorem tried_step {done : List Act} {m : Move} {before after : RetryStage}
    (hfit : ∀ n < maxAttempts, backoff * n / 1000 < Number.Word.count 64)
    (h : Tried outcomes event maxAttempts backoff done before)
    (hc : Course ⟨event, maxAttempts, backoff, before⟩ before m after)
    (hreply : ∀ reply, m = .published reply → reply = outcomes (attempts done)) :
    Tried outcomes event maxAttempts backoff
      (done ++ acts ⟨event, maxAttempts, backoff, before⟩ m) after := by
  cases hc with
  | accepted n =>
    cases h with
    | attempting hn hrefused =>
      have hok := hreply _ rfl
      rw [attempts_rounds] at hok
      have hnext : Tried outcomes event maxAttempts backoff _ .accepted :=
        .accepted hn hrefused hok.symm
      rwa [warning, ← hok] at hnext
  | refused n e =>
    cases h with
    | @attempting n hn hrefused =>
      have he := hreply _ rfl
      rw [attempts_rounds] at he
      rw [acts_refused _ rfl he.symm, refusedStage]
      by_cases hlt : n + 1 < maxAttempts
      · have hpause (r : Retry) (hr : r.backoff = backoff) : (r.pause? (n + 1)).isSome := by
          rw [pause?, hr, if_pos (hfit _ hlt)]
          rfl
        rw [if_pos hlt, if_pos hlt, if_pos (hpause _ rfl), List.append_nil]
        exact .pausing hlt hrefused he.symm
      · rw [if_neg hlt, if_neg hlt]
        exact .exhausted (Nat.le_antisymm hn (Nat.not_lt.mp hlt)) hrefused he.symm
  | rested n =>
    cases h with
    | @pausing n e hn hrefused he =>
      have hnext : Tried outcomes event maxAttempts backoff _ (.attempting (n + 1 + 1)) :=
        .attempting hn (refused_succ hrefused he)
      rw [rounds_succ] at hnext
      rw [acts_rested _ rfl (hfit _ hn), List.append_assoc]
      exact hnext

/-- What is read off the acts of a retry with an attempt behind it. -/
theorem tried_reads (n : Nat) (rs : List Report) :
    let acts := rounds outcomes event maxAttempts backoff n ++ .published event :: rs.map .reported
    attempts acts = n + 1 ∧
      doings acts = (List.range n).flatMap
        (fun i => [.published event, .rested (backoff * (i + 1))]) ++ [.published event] ∧
      reportsOf acts = (List.range n).flatMap (warning outcomes event maxAttempts) ++ rs := by
  refine ⟨?_, ?_, ?_⟩
  · rw [attempts_append, attempts_rounds, attempts_round]
  · rw [doings_append, doings_rounds, doings_round]
  · rw [reportsOf_append, reportsOf_rounds, reportsOf_round]

theorem range_warnings (n : Nat) :
    (List.range (n + 1)).flatMap (warning outcomes event maxAttempts) =
      (List.range n).flatMap (warning outcomes event maxAttempts) ++
        warning outcomes event maxAttempts n := by
  rw [List.range_succ, List.flatMap_append, List.flatMap_singleton]

/-- What a retry has done by its end, told by the outcomes alone. -/
structure Spent (outcomes : Nat → Except PublishError Unit) (event : Event)
    (maxAttempts backoff : Nat) (acts : List Act) : Prop where
  /-- The attempts go on up to the first that is accepted, or to the most that may be made. -/
  attempts : (attempts acts : ℕ∞) = min (maxAttempts : ℕ∞) (firstAccepted outcomes)
  /-- The event is the same each time. A pause follows each attempt but the last. -/
  doings : doings acts = (List.range (Retry.attempts acts - 1)).flatMap
    (fun i => [.published event, .rested (backoff * (i + 1))]) ++ [.published event]
  /-- Each refused attempt is warned of. The event is dropped if all that may be made are. -/
  reports : reportsOf acts =
    (List.range (Retry.attempts acts)).flatMap (warning outcomes event maxAttempts) ++
      if Refused outcomes maxAttempts then dropped event else []

theorem spent_of_tried {acts : List Act} {stage : RetryStage}
    (h : Tried outcomes event maxAttempts backoff acts stage)
    (hend : stage = .accepted ∨ stage = .exhausted) :
    Spent outcomes event maxAttempts backoff acts := by
  cases h with
  | attempting hn _ | pausing hn _ _ => exact absurd hend (by simp)
  | @accepted n hn hrefused hok =>
    obtain ⟨hattempts, hdoings, hreports⟩ := @tried_reads outcomes event maxAttempts backoff n
      (warning outcomes event maxAttempts n)
    have hnot : ¬Refused outcomes maxAttempts := fun hall =>
      absurd ((hok ▸ hall n hn : (Except.ok () : Except PublishError Unit).isOk = false)) nofun
    refine ⟨?_, ?_, ?_⟩
    · rw [hattempts, firstAccepted_eq hrefused hok, min_eq_right (by exact_mod_cast hn)]
    · rw [hattempts]
      exact hdoings
    · rw [hattempts, if_neg hnot, List.append_nil, range_warnings]
      exact hreports
  | @exhausted n e hn hrefused he =>
    subst hn
    obtain ⟨hattempts, hdoings, hreports⟩ := @tried_reads outcomes event (n + 1) backoff n
      (warning outcomes event (n + 1) n ++ dropped event)
    have hall := refused_succ hrefused he
    refine ⟨?_, ?_, ?_⟩
    · have hle : ((n + 1 : Nat) : ℕ∞) ≤ firstAccepted outcomes :=
        le_trans (by exact_mod_cast Nat.le_succ _) (le_firstAccepted hall)
      rw [hattempts, min_eq_left hle]
    · rw [hattempts]
      exact hdoings
    · rw [hattempts, if_pos hall, range_warnings, List.append_assoc]
      exact hreports

/-- A retry cannot go on for ever. -/
theorem doings_bounded {acts : List Act} {stage : RetryStage}
    (h : Tried outcomes event maxAttempts backoff acts stage) :
    (doings acts).length + 1 ≤ 2 * maxAttempts := by
  have hrounds (n : Nat) :
      (doings (rounds outcomes event maxAttempts backoff n)).length = 2 * n := by
    rw [doings_rounds, List.length_flatMap]
    simp [Nat.mul_comm]
  cases h with
  | attempting hn _ =>
    rw [hrounds]
    omega
  | pausing hn _ _ | accepted hn _ _ | exhausted hn _ _ =>
    rw [doings_append, List.length_append, hrounds, doings_round, List.length_singleton]
    omega

end Outcomes
end Retry

/-! ### The caller and the retries -/

/-- A retry, and what it has done. -/
structure Tries where
  retry : Retry
  acts : List Retry.Act

/-- A call, whether its caller has cancelled, and the retries that it set going. -/
structure Sending where
  call : Create
  cancelled : Bool
  retries : List Tries

/-- A retry makes a move; an attempt is answered by the next of the outcomes. -/
def Tries.Does (outcomes : Nat → Except PublishError Unit) (t : Tries) (m : Retry.Move)
    (next : Retry) : Prop :=
  (∃ w w', Retry.machine.Step t.retry w m next w') ∧
    ∀ reply, m = .published reply → reply = outcomes (Retry.attempts t.acts)

namespace Tries
variable {outcomes : Nat → Except PublishError Unit} {t : Tries} {next : Retry} {event : Event}
  {maxAttempts backoff : Nat}

theorem does_published {n : Nat} {reply : Except PublishError Unit}
    (hs : t.retry.stage = .attempting n) (hr : reply = outcomes (Retry.attempts t.acts))
    (h : t.retry.step? (.published reply) = some next) :
    t.Does outcomes (.published reply) next := by
  let w : World := ⟨.empty, .create .standard⟩
  have hw : w.answer? 0 (.publish t.retry.event) reply = some w := by cases reply <;> rfl
  have hq : ⟨.publish t.retry.event, .published⟩ ∈ Retry.machine.questions t.retry := by
    simp [Retry.machine, Retry.question?, hs]
  refine ⟨⟨w, w, .answered hq hw h⟩, ?_⟩
  rintro _ ⟨⟩
  exact hr

theorem does_rested (h : t.retry.step? .rested = some next) : t.Does outcomes .rested next :=
  let w : World := ⟨.empty, .create .standard⟩
  ⟨⟨w, w, .own rfl h⟩, nofun⟩

/-- A retry makes a move. -/
def Moves (outcomes : Nat → Except PublishError Unit) (t t' : Tries) : Prop :=
  ∃ m next, t.Does outcomes m next ∧ t' = ⟨next, t.acts ++ t.retry.acts m⟩

section Stages
variable {acts : List Retry.Act} {n : Nat} {e : PublishError}
  (hattempts : Retry.attempts acts = n)
include hattempts

theorem moves_refused (he : outcomes n = .error e) (hlt : n + 1 < maxAttempts)
    (hfit : backoff * (n + 1) / 1000 < Number.Word.count 64) :
    Moves outcomes ⟨⟨event, maxAttempts, backoff, .attempting (n + 1)⟩, acts⟩
      ⟨⟨event, maxAttempts, backoff, .pausing (n + 1)⟩, acts ++ .published event ::
        (Retry.warning outcomes event maxAttempts n).map .reported⟩ := by
  have hstep : Retry.step? ⟨event, maxAttempts, backoff, .attempting (n + 1)⟩
      (.published (.error e)) = some ⟨event, maxAttempts, backoff, .pausing (n + 1)⟩ := by
    simp only [Retry.step?, Retry.pause?, if_pos hlt, if_pos hfit]
    rfl
  refine ⟨_, _, does_published rfl (by rw [hattempts, he]) hstep, ?_⟩
  rw [Retry.acts_refused _ rfl he, if_pos hlt, List.append_nil]

theorem moves_exhausted (he : outcomes n = .error e) (hlast : n + 1 = maxAttempts) :
    Moves outcomes ⟨⟨event, maxAttempts, backoff, .attempting (n + 1)⟩, acts⟩
      ⟨⟨event, maxAttempts, backoff, .exhausted⟩, acts ++ .published event ::
        (Retry.warning outcomes event maxAttempts n ++ Retry.dropped event).map .reported⟩ := by
  have hnot : ¬n + 1 < maxAttempts := by omega
  have hstep : Retry.step? ⟨event, maxAttempts, backoff, .attempting (n + 1)⟩
      (.published (.error e)) = some ⟨event, maxAttempts, backoff, .exhausted⟩ := by
    simp only [Retry.step?, if_neg hnot]
  refine ⟨_, _, does_published rfl (by rw [hattempts, he]) hstep, ?_⟩
  rw [Retry.acts_refused _ rfl he, if_neg hnot]

theorem moves_accepted (hok : outcomes n = .ok ()) :
    Moves outcomes ⟨⟨event, maxAttempts, backoff, .attempting (n + 1)⟩, acts⟩
      ⟨⟨event, maxAttempts, backoff, .accepted⟩, acts ++ .published event ::
        (Retry.warning outcomes event maxAttempts n).map .reported⟩ := by
  refine ⟨.published (.ok ()), _, does_published rfl (by rw [hattempts, hok]) rfl, ?_⟩
  rw [Retry.warning, hok]
  rfl

end Stages

theorem moves_rested {acts : List Retry.Act} {n : Nat}
    (hfit : backoff * n / 1000 < Number.Word.count 64) :
    Moves outcomes ⟨⟨event, maxAttempts, backoff, .pausing n⟩, acts⟩
      ⟨⟨event, maxAttempts, backoff, .attempting (n + 1)⟩, acts ++ [.rested (backoff * n)]⟩ := by
  refine ⟨.rested, _, does_rested rfl, ?_⟩
  rw [Retry.acts_rested _ rfl hfit]

end Tries

namespace Sending

/-- The caller cancels, the call makes a move, or a retry does. -/
inductive Step (c : Config) (outcomes : Nat → Except PublishError Unit) (s : Sending) :
    Sending → Prop
  | cancel : Step c outcomes s { s with cancelled := true }
  | calling {m : Create.Move} {next : Create} {w w' : World} :
      s.call.heeds s.cancelled m → (Create.machine c).Step s.call w m next w' →
      Step c outcomes s
        { s with
          call := next
          retries := s.retries ++ ((s.call.launched? c m).map (⟨·, []⟩)).toList }
  | retrying {n : Nat} {t : Tries} {m : Retry.Move} {next : Retry} :
      s.retries[n]? = some t → t.Does outcomes m next →
      Step c outcomes s
        { s with retries := s.retries.set n ⟨next, t.acts ++ t.retry.acts m⟩ }

/-- How far a call can have come, with its caller and its retries. -/
inductive Reachable (c : Config) (author : UserId) (content : String)
    (outcomes : Nat → Except PublishError Unit) : Sending → Prop
  | start : Reachable c author content outcomes ⟨.start author content, false, []⟩
  | step {s s' : Sending} : Reachable c author content outcomes s → Step c outcomes s s' →
      Reachable c author content outcomes s'

variable {c : Config} {author : UserId} {content : String}
  {outcomes : Nat → Except PublishError Unit} {maxAttempts backoff : Nat} {s : Sending}

/-- A retry is set going by the last move of a call, which succeeds by it. -/
theorem launched_of_step {call next : Create} {m : Create.Move} {w w' : World}
    (hp : c.publish = .bestEffort maxAttempts backoff)
    (h : (Create.machine c).Step call w m next w') :
    (∀ r, call.stage ≠ .finished r) ∧
      (call.launched? c m = none ∨ ∃ post correlation,
        call.launched? c m = some (.start (.announcing post correlation) maxAttempts backoff) ∧
          next.result? = some (.ok post.id)) := by
  obtain ⟨-, -, hc⟩ := Create.course_of_step h
  obtain ⟨author, content, before⟩ := call
  obtain ⟨author', content', after⟩ := next
  constructor
  · intro r hr
    cases hr
    cases hc
  · cases hc with
    | launched post n spread correlation _ =>
      refine .inr ⟨post, correlation, ?_, rfl⟩
      simp only [Create.launched?, hp]
    | named post n spread correlation hstrict =>
      rw [hp] at hstrict
      cases hstrict
    | _ => exact .inl rfl

/-- Nothing is left to the background, or the event of the post that the call succeeded with. -/
def Sent (outcomes : Nat → Except PublishError Unit) (maxAttempts backoff : Nat) (s : Sending) :
    Prop :=
  s.retries = [] ∨ ∃ t post correlation, s.retries = [t] ∧ s.call.result? = some (.ok post.id) ∧
    t.retry = ⟨.announcing post correlation, maxAttempts, backoff, t.retry.stage⟩ ∧
    Retry.Tried outcomes (.announcing post correlation) maxAttempts backoff t.acts t.retry.stage

theorem sent_step {s' : Sending} (hp : c.publish = .bestEffort maxAttempts backoff)
    (hmax : 0 < maxAttempts)
    (hfit : ∀ n < maxAttempts, backoff * n / 1000 < Number.Word.count 64)
    (h : s.Sent outcomes maxAttempts backoff) (hs : Step c outcomes s s') :
    s'.Sent outcomes maxAttempts backoff := by
  cases hs with
  | cancel => exact h
  | @calling m next w w' _ hs =>
    obtain ⟨hgoing, hlaunched⟩ := launched_of_step hp hs
    rcases h with hnone | ⟨t, post, correlation, -, hresult, -⟩
    · rcases hlaunched with hl | ⟨post, correlation, hl, hresult⟩
      · refine .inl ?_
        show s.retries ++ _ = []
        rw [hnone, hl]
        rfl
      · refine .inr ⟨⟨.start (.announcing post correlation) maxAttempts backoff, []⟩, post,
          correlation, ?_, hresult, rfl, .attempting hmax nofun⟩
        show s.retries ++ _ = _
        rw [hnone, hl]
        rfl
    · exact absurd (Create.stage_of_result hresult) (hgoing _)
  | @retrying n t m next ht hdoes =>
    rcases h with hnone | ⟨t', post, correlation, hone, hresult, hretry, htried⟩
    · rw [hnone] at ht
      cases ht
    · rw [hone] at ht
      obtain ⟨rfl, rfl⟩ : n = 0 ∧ t' = t := by
        cases n with
        | zero => exact ⟨rfl, Option.some.inj ht⟩
        | succ n => cases ht
      obtain ⟨⟨w, w', hs⟩, hreply⟩ := hdoes
      obtain ⟨hnext, hc⟩ := Retry.course_of_step hs
      rw [hretry] at hnext hc
      refine .inr ⟨⟨next, t'.acts ++ t'.retry.acts m⟩, post, correlation, ?_, hresult, hnext, ?_⟩
      · show s.retries.set 0 _ = _
        rw [hone]
        rfl
      · rw [hretry]
        exact Retry.tried_step hfit htried hc hreply

theorem sent_of_reachable (hp : c.publish = .bestEffort maxAttempts backoff)
    (hmax : 0 < maxAttempts)
    (hfit : ∀ n < maxAttempts, backoff * n / 1000 < Number.Word.count 64)
    (h : Reachable c author content outcomes s) : s.Sent outcomes maxAttempts backoff := by
  induction h with
  | start => exact .inl rfl
  | step _ hs ih => exact sent_step hp hmax hfit ih hs

/-- A retry can make a move until its attempts are over. -/
theorem goes_on {event : Event} {t : Tries}
    (hretry : t.retry = ⟨event, maxAttempts, backoff, t.retry.stage⟩)
    (h : Retry.Tried outcomes event maxAttempts backoff t.acts t.retry.stage) :
    t.retry.ended ∨ ∃ m next, t.Does outcomes m next := by
  generalize hs : t.retry.stage = stage at hretry h
  generalize t.acts = acts at h
  cases h with
  | attempting _ _ =>
    obtain ⟨next, hnext⟩ := t.retry.exists_step? hs (outcomes (Retry.attempts t.acts))
    exact .inr ⟨_, next, Tries.does_published hs rfl hnext⟩
  | pausing _ _ _ =>
    exact .inr ⟨.rested, _, Tries.does_rested (by rw [hretry]; rfl)⟩
  | accepted _ _ _ => exact .inl (.inl hs)
  | exhausted _ _ _ => exact .inl (.inr hs)

/-- **An event is published until it is accepted, or as often as it may be.** Whatever the publisher
answers to the attempts, one after the other, and whenever the caller cancels: a retry that a call
set going is the only one and is of the event of the post that the call succeeded with. It goes on
until its attempts are over, which takes a bounded number of moves. Then `Spent` says what it did:
as many attempts as it takes to be accepted and no more than may be made, each with the same event;
the pauses between them, which grow, and none after the last; a warning of each refused attempt; and
one count and one line for an event that is dropped, if all attempts that may be made were
refused. -/
theorem attempts_until_accepted (hp : c.publish = .bestEffort maxAttempts backoff)
    (hmax : 0 < maxAttempts)
    (hfit : ∀ n < maxAttempts, backoff * n / 1000 < Number.Word.count 64)
    (h : Reachable c author content outcomes s) {t : Tries} (ht : t ∈ s.retries) :
    s.retries = [t] ∧
      (∃ post correlation, t.retry.event = .announcing post correlation ∧
        s.call.result? = some (.ok post.id)) ∧
      (t.retry.ended ∨ ∃ m next, t.Does outcomes m next) ∧
      (Retry.doings t.acts).length < 2 * maxAttempts ∧
      (t.retry.ended → Retry.Spent outcomes t.retry.event maxAttempts backoff t.acts) := by
  rcases sent_of_reachable hp hmax hfit h with
    hnone | ⟨t', post, correlation, hone, hresult, hretry, htried⟩
  · rw [hnone] at ht
    cases ht
  · rw [hone] at ht
    obtain rfl := List.mem_singleton.mp ht
    have hevent : t.retry.event = .announcing post correlation := by rw [hretry]
    refine ⟨hone, ⟨post, correlation, hevent, hresult⟩, goes_on hretry htried,
      Retry.doings_bounded htried, fun hend => ?_⟩
    rw [hevent]
    exact Retry.spent_of_tried htried hend

/-! ### An event that is accepted at last -/

theorem reachable_of_watched {ts : List Turn} {cancelled : Bool} {call : Create}
    (h : Create.Watched c author content ts cancelled call) :
    ∃ retries, Reachable c author content outcomes ⟨call, cancelled, retries⟩ := by
  induction h with
  | start => exact ⟨[], .start⟩
  | cancel _ ih =>
    obtain ⟨retries, ih⟩ := ih
    exact ⟨retries, ih.step .cancel⟩
  | turn _ hm hs ih =>
    obtain ⟨retries, ih⟩ := ih
    exact ⟨_, ih.step (.calling hm hs)⟩

/-- The only retry of a call makes a move. -/
theorem Reachable.retry {call : Create} {cancelled : Bool} {t t' : Tries}
    (h : Reachable c author content outcomes ⟨call, cancelled, [t]⟩) (hm : t.Moves outcomes t') :
    Reachable c author content outcomes ⟨call, cancelled, [t']⟩ := by
  obtain ⟨m, next, hdoes, rfl⟩ := hm
  exact h.step (.retrying (n := 0) rfl hdoes)

/-- The publisher refuses once and then accepts; the caller cancels as soon as the call is over. -/
theorem attempts_until_accepted_second :
    let c : Config := ⟨50, 100, 2000, 1000, .invalidate, .bestEffort 3 200, ⟨50, 100⟩⟩
    let outcomes : Nat → Except PublishError Unit := fun i =>
      if i = 0 then .error (.rejected 503) else .ok ()
    ∃ s t, Reachable c ⟨"alice"⟩ "hello" outcomes s ∧ t ∈ s.retries ∧ s.cancelled ∧
      t.retry.ended ∧ Retry.attempts t.acts = 2 ∧
      Retry.Spent outcomes t.retry.event 3 200 t.acts := by
  intro c outcomes
  obtain ⟨ts, -, resolved, -⟩ := Create.watched_resolved c (.create .standard) []
  obtain ⟨retries, naming⟩ := reachable_of_watched resolved
  have hfit : ∀ n < 3, 200 * n / 1000 < Number.Word.count 64 := by decide
  have hnone : retries = [] := by
    rcases sent_of_reachable rfl (by decide) hfit naming with hnone | ⟨_, _, _, _, hresult, _⟩
    · exact hnone
    · cases hresult
  subst hnone
  have launched : Reachable c ⟨"alice"⟩ "hello" outcomes _ :=
    naming.step (.calling (m := .named (.ofNat 2)) (w := ⟨.empty, .create .standard⟩) rfl
      (.own rfl rfl))
  have refused := (launched.step .cancel).retry
    (Tries.moves_refused rfl rfl (by decide) (hfit 1 (by decide)))
  have rested := refused.retry (Tries.moves_rested (hfit 1 (by decide)))
  have accepted := rested.retry (Tries.moves_accepted rfl rfl)
  exact ⟨_, _, accepted, List.mem_singleton_self _, rfl, .inl rfl, rfl,
    (attempts_until_accepted rfl (by decide) hfit accepted
      (List.mem_singleton_self _)).2.2.2.2 (.inl rfl)⟩

end Sending
end Timelines.Service
