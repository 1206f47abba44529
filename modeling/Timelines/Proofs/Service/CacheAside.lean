import Timelines.Proofs.Except
import Timelines.Proofs.Service.Reading

/-! Reads beside the cache.

`Watched` lists the histories of a call that reads a timeline: whatever the cache and the store
answer, however late, whenever its caller cancels, and whatever becomes of the refill that it sets
going. A log is kept of what the call was told, and `Told` says for each stage what the log holds by
then. `answers_beside_cache`: but for a slice that answers at once, the cache has no part in what
the call returns, and the refill has none at all. -/
namespace Timelines.Service.Read

/-- Whether a call goes on so when its caller has cancelled, or has not. -/
def heeds (call : Read) (cancelled : Bool) : Move → Bool
  | .cancelled => cancelled
  | _ => !(cancelled && call.cancellable)

/-- A move of a call, and whether its caller had cancelled by then. -/
structure Turn where
  call : Read
  cancelled : Bool
  move : Move

/-- The histories of a call, each with whether its caller has cancelled by then, and with the
refills that were set going. -/
inductive Watched (c : Config) (user : UserId) : List Turn → Bool → Read → List Refill → Prop
  | start : Watched c user [] false (.start user) []
  | cancel {ts : List Turn} {cancelled : Bool} {call : Read} {refills : List Refill} :
      Watched c user ts cancelled call refills → Watched c user ts true call refills
  | turn {ts : List Turn} {cancelled : Bool} {call next : Read} {refills : List Refill} {m : Move} :
      Watched c user ts cancelled call refills → call.heeds cancelled m →
      call.step? c m = some next →
      Watched c user (ts ++ [⟨call, cancelled, m⟩]) cancelled next
        (refills ++ (call.launched? m).toList)
  | refill {ts : List Turn} {cancelled : Bool} {call : Read} {refills : List Refill} {i : Nat}
      {r r' : Refill} {m : Refill.Move} :
      Watched c user ts cancelled call refills → refills[i]? = some r → r.step? m = some r' →
      Watched c user ts cancelled call (refills.set i r')

/-! ### The log -/

/-- What a call has asked for, and what it was told. -/
structure Log where
  asked : List Request := []
  found : Option (Except CacheError (Option (List Post))) := none
  version : Option (Except CacheError Nat) := none
  answer : Option (Except StoreError (List Post)) := none
  /-- The caller had cancelled when the call was done with the store. -/
  cutOff : Bool := false

/-- The log after a turn. -/
def Log.turn (c : Config) (l : Log) (t : Turn) : Log where
  asked := l.asked ++ (t.call.question? c).toList.map (·.request)
  found :=
    match t.move with
    | .cached reply => some reply
    | _ => l.found
  version :=
    match t.move with
    | .versioned reply => some reply
    | _ => l.version
  answer :=
    match t.move with
    | .queried reply => some reply
    | _ => l.answer
  cutOff := l.cutOff || t.cancelled && t.call.cancellable

/-- The log of a history. -/
def log (c : Config) (ts : List Turn) : Log := ts.foldl (Log.turn c) {}

/-- The slice that answers at once. -/
def slice? : Except CacheError (Option (List Post)) → Option (List Post)
  | .ok (some (p :: posts)) => some (p :: posts)
  | _ => none

/-- The refill of an answer that is not empty, by the version that was told before it. -/
def Log.refills (user : UserId) (l : Log) (done : Bool) : List Refill :=
  match l.version, l.answer with
  | some (.ok version), some (.ok (p :: posts)) => [⟨user, p :: posts, version, done⟩]
  | _, _ => []

/-- The log of a call that the cache has not answered, by the time that it asks the store. -/
def missed (c : Config) (user : UserId) (found : Except CacheError (Option (List Post)))
    (version : Except CacheError Nat) : Log where
  asked := [.cacheGet user, .cacheVersion user, .query user c.queryLimit]
  found := some found
  version := some version

/-- What the log of a call holds at each stage. -/
inductive Told (c : Config) (user : UserId) : ReadStage → Log → Prop
  | start : Told c user .askingCache {}
  | missed {found : Except CacheError (Option (List Post))} : slice? found = none →
      Told c user .askingVersion { asked := [.cacheGet user], found := some found }
  | hit {found : Except CacheError (Option (List Post))} {posts : List Post} :
      slice? found = some posts →
      Told c user (.finished (.ok (posts.take c.queryLimit)))
        { asked := [.cacheGet user], found := some found }
  | querying {found : Except CacheError (Option (List Post))} (version : Except CacheError Nat) :
      slice? found = none →
      Told c user (.querying version.toOption)
        { asked := [.cacheGet user, .cacheVersion user], found := some found
          version := some version }
  | refilling {found : Except CacheError (Option (List Post))} (version : Nat) (p : Post)
      (posts : List Post) : slice? found = none →
      Told c user (.refilling (p :: posts))
        { Read.missed c user found (.ok version) with answer := some (.ok (p :: posts)) }
  | answered {found : Except CacheError (Option (List Post))} (version : Except CacheError Nat)
      (answer : Except StoreError (List Post)) : slice? found = none →
      Told c user (.finished (answer.mapError .persistenceFailed))
        { Read.missed c user found version with answer := some answer }
  | cutOff {found : Except CacheError (Option (List Post))} (version : Except CacheError Nat) :
      slice? found = none →
      Told c user (.finished (.error (.cancelled none)))
        { Read.missed c user found version with cutOff := true }

variable {c : Config} {user : UserId} {ts : List Turn} {cancelled : Bool} {call next : Read}
  {work : List Refill} {l : Log} {m : Move}

theorem log_snoc (t : Turn) : log c (ts ++ [t]) = (log c ts).turn c t := by
  rw [log, List.foldl_append]
  rfl

/-- The cache answers at once with a slice that is not empty. -/
theorem next?_found (reply : Except CacheError (Option (List Post))) :
    next? c ⟨user, .askingCache⟩ (.cached reply) = some (match slice? reply with
      | some posts => .finished (.ok (posts.take c.queryLimit))
      | none => .askingVersion) := by
  cases reply with
  | error e => rfl
  | ok found =>
    cases found with
    | none => rfl
    | some posts => cases posts <;> rfl

/-- A call that is over makes no more moves. -/
theorem next?_finished (answer : Except Failure (List Post)) (m : Move) :
    next? c ⟨user, .finished answer⟩ m = none := by
  cases m <;> rfl

theorem Told.queried {found : Except CacheError (Option (List Post))}
    (version : Except CacheError Nat) (posts : List Post) (hs : slice? found = none) :
    Told c user (queriedStage version.toOption posts)
      { Read.missed c user found version with answer := some (.ok posts) } := by
  cases version with
  | error e => exact .answered (.error e) (.ok posts) hs
  | ok version =>
    cases posts with
    | nil => exact .answered (.ok version) (.ok []) hs
    | cons p posts => exact .refilling version p posts hs

theorem Told.turn {stage stage' : ReadStage} (h : Told c user stage l)
    (hh : heeds ⟨user, stage⟩ cancelled m) (hn : next? c ⟨user, stage⟩ m = some stage') :
    Told c user stage' (l.turn c ⟨⟨user, stage⟩, cancelled, m⟩) := by
  cases h with
  | start =>
    cases m with
    | cached reply =>
      cases (next?_found reply).symm.trans hn
      cases hs : slice? reply with
      | none => simpa [Log.turn, question?, cancellable] using Told.missed hs
      | some posts => simpa [Log.turn, question?, cancellable] using Told.hit hs
    | _ => simp [next?] at hn
  | missed hs =>
    cases m with
    | versioned reply =>
      cases reply with
      | error e =>
        cases hn
        simpa [Log.turn, question?, cancellable, Except.toOption] using
          Told.querying (.error e) hs
      | ok version =>
        cases hn
        simpa [Log.turn, question?, cancellable, Except.toOption] using
          Told.querying (.ok version) hs
    | _ => simp [next?] at hn
  | hit hs | answered version answer hs | cutOff version hs =>
    rw [next?_finished] at hn
    cases hn
  | querying version hs =>
    cases m with
    | queried reply =>
      obtain rfl : cancelled = false := by simpa [heeds, cancellable] using hh
      cases reply with
      | error e =>
        have hstage : stage' = .finished (.error (.persistenceFailed e)) := by
          cases hv : version.toOption <;> simpa [next?, hv] using hn.symm
        subst hstage
        simpa [Log.turn, question?, cancellable, Read.missed] using
          Told.answered version (.error e) hs
      | ok posts =>
        cases (next?_queried rfl posts).symm.trans hn
        simpa [Log.turn, question?, cancellable, Read.missed] using Told.queried version posts hs
    | cancelled =>
      obtain rfl : cancelled = true := hh
      cases hn
      simpa [Log.turn, question?, cancellable, Read.missed] using Told.cutOff version hs
    | _ => simp [next?] at hn
  | refilling version p posts hs =>
    cases m with
    | waited =>
      cases hn
      simpa [Log.turn, question?, cancellable] using
        Told.answered (.ok version) (.ok (p :: posts)) hs
    | _ => simp [next?] at hn

/-- A refill is set going with the answer of the store, if the version was told before it. -/
theorem Told.refills {stage stage' : ReadStage} (h : Told c user stage l)
    (hn : next? c ⟨user, stage⟩ m = some stage') (done : Bool) :
    ∃ done', l.refills user done ++ (launched? ⟨user, stage⟩ m).toList =
      (l.turn c ⟨⟨user, stage⟩, cancelled, m⟩).refills user done' := by
  cases h with
  | querying version hs =>
    cases m with
    | queried reply =>
      refine ⟨false, ?_⟩
      cases reply with
      | error e => cases version <;> rfl
      | ok posts => cases posts <;> cases version <;> rfl
    | cancelled => exact ⟨done, by simp [launched?, Log.refills, Log.turn]⟩
    | _ => simp [next?] at hn
  | _ =>
    refine ⟨done, ?_⟩
    cases m <;> simp [next?] at hn <;> simp [launched?, Log.refills, Log.turn]

/-- A refill that is done is still the one that was set going. -/
theorem Log.refills_set {r : Refill} {i : Nat} {done : Bool}
    (h : (l.refills user done)[i]? = some r) :
    (l.refills user done).set i { r with done := true } = l.refills user true := by
  unfold refills at h ⊢
  split
  next version p posts hv ha =>
    rw [hv, ha] at h
    cases i with
    | zero =>
      cases h
      rfl
    | succ i => cases h
  next => rfl

/-- How many moves are left to a call. -/
def movesLeft : ReadStage → Nat
  | .askingCache => 4
  | .askingVersion => 3
  | .querying _ => 2
  | .refilling _ => 1
  | .finished _ => 0

theorem movesLeft_lt {stage stage' : ReadStage} (hn : next? c ⟨user, stage⟩ m = some stage') :
    movesLeft stage' < movesLeft stage := by
  unfold next? at hn
  split at hn <;> split at hn <;> cases hn <;> simp_all [movesLeft]

/-- What holds of a call by the log of its history. -/
structure Followed (c : Config) (user : UserId) (ts : List Turn) (call : Read)
    (work : List Refill) : Prop where
  user_eq : call.user = user
  told : Told c user call.stage (log c ts)
  work_eq : ∃ done, work = (log c ts).refills user done
  bounded : ts.length + movesLeft call.stage ≤ 4

theorem followed_of_watched (h : Watched c user ts cancelled call work) :
    Followed c user ts call work := by
  induction h with
  | start => exact ⟨rfl, .start, ⟨false, rfl⟩, Nat.le_refl _⟩
  | cancel _ ih => exact ih
  | @turn ts cancelled call next refills m _ hh hs ih =>
    obtain ⟨stage, hn, rfl⟩ := Option.map_eq_some_iff.mp hs
    obtain ⟨rfl, told, ⟨done, rfl⟩, hb⟩ := ih
    have hless := movesLeft_lt hn
    refine ⟨rfl, ?_, ?_, ?_⟩
    · rw [log_snoc]
      exact told.turn hh hn
    · rw [log_snoc]
      exact told.refills hn done
    · rw [List.length_append, List.length_singleton]
      dsimp only
      omega
  | @refill ts cancelled call refills i r r' m _ hr hs ih =>
    obtain ⟨hd, rfl⟩ := Refill.done_of_step (m := m) hs
    refine ⟨ih.user_eq, ih.told, ⟨true, ?_⟩, ih.bounded⟩
    obtain ⟨done, rfl⟩ := ih.work_eq
    exact Log.refills_set hr

/-- A call without a result waits for an answer, and any will do, or can go on by itself. -/
theorem goes_on (c : Config) (cancelled : Bool) (h : call.result? = none) :
    (∃ q, call.question? c = some q ∧ ∀ reply,
      call.heeds cancelled (q.answered reply) ∧ (call.step? c (q.answered reply)).isSome) ∨
    ∃ m : Move, m.own ∧ call.heeds cancelled m ∧ (call.step? c m).isSome := by
  obtain ⟨user, stage⟩ := call
  cases stage with
  | askingCache =>
    refine .inl ⟨_, rfl, fun reply => ⟨by simp [heeds, cancellable], ?_⟩⟩
    rw [step?, next?_found]
    rfl
  | askingVersion =>
    refine .inl ⟨_, rfl, fun reply => ⟨by simp [heeds, cancellable], ?_⟩⟩
    cases reply <;> rfl
  | querying version =>
    cases cancelled with
    | true => exact .inr ⟨.cancelled, rfl, rfl, rfl⟩
    | false =>
      refine .inl ⟨_, rfl, fun reply => ⟨rfl, ?_⟩⟩
      cases reply with
      | error e => cases version <;> rfl
      | ok posts =>
        rw [step?, next?_queried rfl]
        rfl
  | refilling posts => exact .inr ⟨.waited, rfl, by simp [heeds, cancellable], rfl⟩
  | finished r => cases h

/-! ### The answer -/

/-- A refill that took too long did nothing, and does nothing more. -/
theorem unchanged_of_expired {r next : Refill} {w w' : World}
    (h : Refill.machine.Step r w .expired next w') :
    w' = w ∧ ∀ m next' w'', ¬Refill.machine.Step next w' m next' w'' := by
  obtain ⟨-, rfl, hc⟩ := Refill.course_of_step h
  refine ⟨by cases hc; rfl, fun m next' w'' hs => ?_⟩
  have hd := (Refill.course_of_step hs).1
  cases hd

theorem result_of_told {stage : ReadStage} (h : Told c user stage l)
    {r : Except Failure (List Post)} (hr : result? ⟨user, stage⟩ = some r) :
    ∃ found, l.found = some found ∧
      (∀ posts, slice? found = some posts →
        r = .ok (posts.take c.queryLimit) ∧ l.asked = [.cacheGet user]) ∧
      (slice? found = none →
        (r = .error (.cancelled none) ↔ l.cutOff) ∧
        (l.cutOff = false →
          ∃ answer, l.answer = some answer ∧ r = answer.mapError .persistenceFailed)) := by
  cases h with
  | hit hs =>
    cases hr
    refine ⟨_, rfl, fun posts hp => ?_, fun hn => ?_⟩
    · cases hs.symm.trans hp
      exact ⟨rfl, rfl⟩
    · cases hs.symm.trans hn
  | answered version answer hs =>
    cases hr
    refine ⟨_, rfl, fun posts hp => ?_, fun _ => ⟨?_, fun _ => ⟨answer, rfl, rfl⟩⟩⟩
    · cases hs.symm.trans hp
    · cases answer <;> simp [Read.missed]
  | cutOff version hs =>
    cases hr
    refine ⟨_, rfl, fun posts hp => ?_, fun _ => ⟨⟨fun _ => rfl, fun _ => rfl⟩, fun hc => ?_⟩⟩
    · cases hs.symm.trans hp
    · cases hc
  | _ => cases hr

theorem asked_of_told {stage : ReadStage} (h : Told c user stage l) :
    l.asked <+: [.cacheGet user, .cacheVersion user, .query user c.queryLimit] := by
  cases h <;> exact ⟨_, rfl⟩

/-- **Reads beside the cache.** Whatever the peers answer and whenever the caller cancels, a call
that is done was answered by the cache. A slice that is not empty answers it, up to the limit, and
nothing else is asked. Otherwise the call fails as cancelled just if its caller had cancelled when
it was done with the store, and else its result is the answer of the store. The one refill there
may be puts that answer back by the version told before it, if it is not empty and there was one;
nothing of what becomes of the refill has a part in this, and one that takes too long leaves the
peers as they are. A call that is not done can go on, and does so four times at most. -/
theorem answers_beside_cache (h : Watched c user ts cancelled call work) :
    (∀ r, call.result? = some r → ∃ found, (log c ts).found = some found ∧
      (∀ posts, slice? found = some posts →
        r = .ok (posts.take c.queryLimit) ∧ (log c ts).asked = [.cacheGet user]) ∧
      (slice? found = none →
        (r = .error (.cancelled none) ↔ (log c ts).cutOff) ∧
        ((log c ts).cutOff = false →
          ∃ answer, (log c ts).answer = some answer ∧ r = answer.mapError .persistenceFailed))) ∧
    (∃ done, work = (log c ts).refills user done) ∧
    (log c ts).asked <+: [.cacheGet user, .cacheVersion user, .query user c.queryLimit] ∧
    (∀ refill ∈ work, ∀ w next w', Refill.machine.Step refill w .expired next w' →
      w' = w ∧ ∀ m next' w'', ¬Refill.machine.Step next w' m next' w'') ∧
    ts.length ≤ 4 ∧
    (call.result? = none →
      (∃ q, call.question? c = some q ∧ ∀ reply,
        call.heeds cancelled (q.answered reply) ∧ (call.step? c (q.answered reply)).isSome) ∨
      ∃ m : Move, m.own ∧ call.heeds cancelled m ∧ (call.step? c m).isSome) := by
  obtain ⟨rfl, told, hwork, hb⟩ := followed_of_watched h
  exact ⟨fun r hr => result_of_told told hr, hwork, asked_of_told told,
    fun _ _ _ _ _ => unchanged_of_expired, by omega, goes_on c cancelled⟩

/-- The cache is down but for the version, the caller cancels once the store has answered, and the
refill takes too long: the answer of the store is returned. -/
theorem answers_beside_cache_of_outage :
    let c : Config := ⟨50, 100, 2000, 1000, .invalidate, .strict, ⟨50, 100⟩⟩
    ∃ ts answer, Watched c ⟨"bob"⟩ ts true ⟨⟨"bob"⟩, .finished (.ok [default])⟩
        [⟨⟨"bob"⟩, [default], 7, true⟩] ∧
      (log c ts).found = some (.error (.unavailable "down")) ∧ (log c ts).answer = some answer ∧
      (.ok [default] : Except Failure (List Post)) = answer.mapError .persistenceFailed := by
  intro c
  have missed : Watched c ⟨"bob"⟩ _ false _ _ :=
    Watched.start.turn (m := .cached (.error (.unavailable "down"))) rfl rfl
  have told := missed.turn (m := .versioned (.ok 7)) rfl rfl
  have queried := told.turn (m := .queried (.ok [default])) rfl rfl
  have expired := queried.cancel.refill (i := 0) (m := .expired) rfl rfl
  have done := expired.turn (m := .waited) rfl rfl
  obtain ⟨found, hfound, -, hmiss⟩ := (answers_beside_cache done).1 _ rfl
  cases hfound
  obtain ⟨answer, hanswer, hr⟩ := (hmiss rfl).2 rfl
  exact ⟨_, answer, done, rfl, hanswer, hr⟩

end Timelines.Service.Read
