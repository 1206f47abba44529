import Timelines.Proofs.Service.CacheAside
import Timelines.Proofs.Service.Exchanges
import Timelines.Proofs.Service.Failures

/-! What a call, and its work in the background, come to count.

`Create.share` tells from the log of a call and its stage how often the call has counted each
metric, side paths aside, and `Create.times_of_run` that its reports do so; `Read.share` and
`Read.times_of_watched` do the same for reads, and `Tries.Paced` for the retries of an event. -/
namespace Timelines.Service
open Report

/-! ### The fan-out -/

namespace Fanout
variable {followers : List UserId} {ws : List Write} {f f' : Fanout} {m : Move}

/-- The writes that end with a move in a way. -/
def ends (p : Except StoreError Unit → Bool) : Move → Nat
  | .wrote _ reply => if p reply then 1 else 0
  | _ => 0

theorem length_answered_noted (h : Accounted followers ws f) (hs : Course f m f')
    (p : Except StoreError Unit → Bool) :
    (answered p (f.noted ws m)).length = (answered p ws).length + ends p m := by
  have ended {n : Nat} {w : Worker} {u : UserId} (reply : Except StoreError Unit)
      (hw : f.workers[n]? = some w) (ha : w.activity = .writing u) :
      (answered p (ws.map (Write.answer n reply))).length =
        (answered p ws).length + if p reply then 1 else 0 := by
    have hn : writing n ws = [u] := by
      rw [h.writing, activity?_eq hw, ha]
      rfl
    rw [(answered_answer n reply p ws).length_eq, hn, List.length_append]
    split <;> rfl
  cases hs with
  | @take n line u queue w hl hq hw =>
    have hnoted : f.noted ws .take = ws ++ [⟨n, u, none⟩] := by rw [noted, hl, hq]
    rw [hnoted]
    simp [answered, ends]
  | wrote hw ha => exact ended (.ok ()) hw ha
  | notWritten e hw ha => exact ended (.error e) hw ha
  | dispatch | stop | ask | leave => rfl

/-- What a move counts. -/
def counts (m : Move) : Metric → Nat
  | .fanoutWrites true => ends (·.isOk) m
  | .fanoutWrites false => ends (!·.isOk) m
  | _ => 0

theorem times_reports (hs : Course f m f') (k : Metric) : times k (f.reports m) = counts m k := by
  cases hs with
  | @notWritten n w u e hw ha =>
    obtain ⟨activity, delivered, failed⟩ := w
    cases ha
    simp only [reports, hw]
    cases k with
    | fanoutWrites ok => cases ok <;> rfl
    | _ => rfl
  | _ =>
    cases k with
    | fanoutWrites ok => cases ok <;> rfl
    | _ => rfl

end Fanout

/-! ### Calls that create posts -/

/-- The call failed for its announcement. -/
def CreateStage.unannounced : CreateStage → Bool
  | .finished (.error (.publishFailed ..)) => true
  | _ => false

/-- The followers that the graph named, each once. -/
def Log.followers (l : Log) : List UserId := Create.distinct (l.named.getD [])

/-- The post was spread to somebody. -/
def Log.timed (l : Log) : Bool := l.report.isSome && !l.followers.isEmpty

namespace Create

/-- What a call counts by a stage, side paths aside. -/
def share (l : Log) (stage : CreateStage) : Metric → Nat
  | .postsCreated => l.saved.length
  | .fanoutWrites true => (Fanout.reached l.writes).length
  | .fanoutWrites false => (Fanout.missed l.writes).length
  | .fanoutTime => l.timed.toNat
  | .publishFailures => stage.unannounced.toNat
  | _ => 0

/-- A fan-out has followers, and a call that broke with a post did so for a queue to them that
cannot be. -/
def Manned (c : Config) (l : Log) : CreateStage → Prop
  | .spreading followers _ => followers ≠ []
  | .broken => l.saved ≠ [] → Fanout.maxQueue < c.bounds.queue ∧ l.followers ≠ []
  | _ => True

variable {c : Config} {author : UserId} {content : String} {ts : List Turn} {call : Create}
  {l : Log} {before after : CreateStage} {m : Move} {w w' : World}

theorem share_congr {l' : Log} (hsaved : l'.saved = l.saved) (hwrites : l'.writes = l.writes)
    (htimed : l'.timed = l.timed) (hstage : after.unannounced = before.unannounced) (k : Metric) :
    share l' after k = share l before k := by
  unfold share
  rw [hsaved, hwrites, htimed, hstage]

/-- A step that counts nothing. -/
theorem share_quiet {l' : Log} {rs : List Report} {k : Metric} (hsaved : l'.saved = l.saved)
    (hwrites : l'.writes = l.writes) (htimed : l'.timed = l.timed)
    (hstage : after.unannounced = before.unannounced) (hrs : times k rs = 0) :
    share l' after k = share l before k + times k rs := by
  rw [share_congr hsaved hwrites htimed hstage, hrs, Nat.add_zero]

/-! #### The followers become known -/

theorem share_resolved {draft : Draft} {id : PostId} (reply : Except GraphError (List UserId))
    {k : Metric} (hk : ∀ path, k ≠ .degraded path) :
    let call : Create := ⟨author, content, .resolving (draft.toPost id)⟩
    let l : Log :=
      { made := [.userExists author, .save draft, .followers author], known := true
        saved := [(draft, id)] }
    let next := afterResolving c (draft.toPost id) (distinct (reply.toOption.getD []))
    share (l.turn c ⟨call, .resolved reply, w, w'⟩ next) next k =
      share l call.stage k + times k (call.reports c (.resolved reply)) := by
  intro call l next
  have hnext : next = afterResolving c (draft.toPost id) (distinct (reply.toOption.getD [])) := rfl
  clear_value next
  have hreports : times k (call.reports c (.resolved reply)) = 0 := by
    cases reply with
    | ok followers => rfl
    | error e => exact times_sidePathFailed_of_ne hk ..
  refine share_quiet rfl rfl ?_ ?_ hreports
  · unfold afterResolving at hnext
    split at hnext
    next hnil =>
      show (_ && !(distinct (reply.toOption.getD [])).isEmpty) = false
      rw [hnil]
      exact Bool.and_false _
    next => split at hnext <;> rw [hnext] <;> rfl
  · rw [hnext]
    unfold afterResolving
    split
    · rfl
    · split <;> rfl

theorem manned_resolved {draft : Draft} {id : PostId} (reply : Except GraphError (List UserId)) :
    let call : Create := ⟨author, content, .resolving (draft.toPost id)⟩
    let next := afterResolving c (draft.toPost id) (distinct (reply.toOption.getD []))
    Manned c (l.turn c ⟨call, .resolved reply, w, w'⟩ next) next := by
  intro call next
  have hnext : next = afterResolving c (draft.toPost id) (distinct (reply.toOption.getD [])) := rfl
  clear_value next
  unfold afterResolving at hnext
  split at hnext
  next =>
    subst hnext
    trivial
  next followers hsome =>
    split at hnext
    next hq =>
      subst hnext
      exact fun _ => ⟨hq, hsome⟩
    next =>
      subst hnext
      exact hsome

/-! #### The fan-out -/

theorem unannounced_spreadStage (c : Config) (followers : List UserId) (f : Fanout) :
    (spreadStage c followers f).unannounced = false := by
  unfold spreadStage afterSpread
  split
  · split <;> rfl
  · rfl

theorem times_spread (followers : List UserId) {f f' : Fanout} {move : Fanout.Move}
    (hf : f.step? move = some f') (k : Metric) :
    times k (reports c ⟨author, content, .spreading followers f⟩ (.spread move)) =
      Fanout.counts move k + if .fanoutTime = k then f'.finished.toNat else 0 := by
  simp only [reports, hf, times_append, Fanout.times_reports (Fanout.course_of_step hf)]
  cases f'.finished <;> simp

theorem timed_spread {t : Trail} (hs : t.followers ≠ []) (f f' : Fanout) (move : Fanout.Move) :
    ((t.spread author).turn c ⟨⟨author, content, .spreading t.followers f⟩, .spread move, w, w'⟩
      (spreadStage c t.followers f')).timed = f'.finished := by
  have hsome : (!t.followers.isEmpty) = true := by simpa using hs
  show (Option.isSome (Option.or _ none) && !t.followers.isEmpty) = _
  rw [hsome, Bool.and_true, Option.or_none]
  unfold spreadStage
  split
  next hfin =>
    rw [report?_afterSpread, hfin]
    rfl
  next hfin =>
    rw [Bool.eq_false_iff.mpr hfin]
    rfl

theorem share_spread {t : Trail} {f f' : Fanout} {move : Fanout.Move} (hs : t.followers ≠ [])
    (hh : Fanout.History c.bounds t.post t.followers t.writes f) (hf : f.step? move = some f')
    (k : Metric) :
    let call : Create := ⟨author, content, .spreading t.followers f⟩
    let next := spreadStage c t.followers f'
    share ((t.spread author).turn c ⟨call, .spread move, w, w'⟩ next) next k =
      share (t.spread author) call.stage k + times k (call.reports c (.spread move)) := by
  intro call next
  have hends := Fanout.length_answered_noted (Fanout.sound_of_history hh).accounted
    (Fanout.course_of_step hf)
  rw [times_spread t.followers hf]
  cases k with
  | fanoutWrites ok =>
    cases ok with
    | true | false => exact hends _
  | fanoutTime =>
    show Bool.toNat _ = 0 + (0 + f'.finished.toNat)
    rw [timed_spread hs, Nat.zero_add, Nat.zero_add]
  | publishFailures =>
    show Bool.toNat _ = 0
    rw [unannounced_spreadStage]
    rfl
  | _ => rfl

theorem unannounced_upkeepStage (post : Post) (n : Nat) (s : Spread)
    (waiting running : List UserId) :
    (upkeepStage post n s waiting running).unannounced = false := by
  unfold upkeepStage
  split <;> rfl

theorem timed_maintained {t : Trail} (n : Nat) (s : Spread) (taken upkept : List UserId)
    (waiting running : List UserId) (u : UserId) (reply : Except CacheError Unit) :
    let l := t.upkeep c author s taken upkept
    let next := upkeepStage t.post n s waiting (running.erase u)
    (l.turn c ⟨⟨author, content, .maintaining t.post n s waiting running⟩, .maintained u reply, w,
      w'⟩ next).timed = l.timed := by
  intro l next
  show (Option.isSome (Option.or next.report? (some s)) && !t.followers.isEmpty) = l.timed
  rw [Option.isSome_or, Option.isSome_some, Bool.or_true]
  rfl

/-! #### Histories -/

/-- Each step counts what its call's share grows by. -/
theorem share_turn (h : Account c author content l before) (hm : Manned c l before)
    (hc : Course c author content w before m after w') {k : Metric}
    (hk : ∀ path, k ≠ .degraded path) :
    share (l.turn c ⟨⟨author, content, before⟩, m, w, w'⟩ after) after k =
      share l before k + times k (reports c ⟨author, content, before⟩ m) := by
  cases hc with
  | recorded draft hid =>
    cases h with
    | recording hd =>
      cases k with
      | fanoutWrites ok => cases ok <;> rfl
      | _ => rfl
  | resolved post followers =>
    cases h with
    | resolving hd => exact share_resolved (.ok followers) hk
  | notResolved post e =>
    cases h with
    | resolving hd => exact share_resolved (.error e) hk
  | spread followers hf _ | wrote followers _ _ hf | notWritten followers hf =>
    cases h with
    | spreading hd hh => exact share_spread hm hh hf k
  | maintained post n s waiting _ hu =>
    cases h with
    | maintaining hd hs htaken hupkept =>
      exact share_quiet (List.append_nil _) rfl (timed_maintained ..) (unannounced_upkeepStage ..)
        rfl
  | notMaintained post n s waiting e hu =>
    cases h with
    | maintaining hd hs htaken hupkept =>
      exact share_quiet (List.append_nil _) rfl (timed_maintained ..) (unannounced_upkeepStage ..)
        (times_sidePathFailed_of_ne hk ..)
  | named post n s correlation hp | launched post n s correlation hp =>
    cases h with
    | naming hupkept =>
      refine share_quiet (List.append_nil _) rfl rfl rfl ?_
      simp only [reports, hp]
      rfl
  | notAnnounced post n s event e =>
    cases h with
    | announcing hk hp =>
      cases k with
      | fanoutWrites ok => cases ok <;> rfl
      | _ => rfl
  | known | unknown | notLookedUp e | dated hd | invalid hv | undated | notRecorded draft e
  | maintain post n s u waiting running hlt | announced post n s event | cancelledLookingUp
  | cancelledRecording draft | cancelledAnnouncing post n s event =>
    cases h
    exact share_quiet (List.append_nil _) rfl rfl rfl rfl

theorem manned_turn (h : Account c author content l before) (hm : Manned c l before)
    (hc : Course c author content w before m after w') :
    Manned c (l.turn c ⟨⟨author, content, before⟩, m, w, w'⟩ after) after := by
  cases hc with
  | undated =>
    cases h
    exact fun hsaved => absurd rfl hsaved
  | resolved post followers =>
    cases h with
    | resolving hd => exact manned_resolved (.ok followers)
  | notResolved post e =>
    cases h with
    | resolving hd => exact manned_resolved (.error e)
  | spread followers | wrote followers | notWritten followers =>
    unfold spreadStage afterSpread
    split
    · split <;> trivial
    · exact hm
  | maintained | notMaintained =>
    unfold upkeepStage
    split <;> trivial
  | _ => trivial

theorem manned_of_run (hw : 0 < c.bounds.workers) (h : Run c author content ts call) :
    Manned c (log c author content ts) call.stage := by
  induction h with
  | start => trivial
  | turn hr hs ih =>
    obtain ⟨hcall, hc⟩ := course_of_run hr hs
    rw [log_turn hs, hcall]
    exact manned_turn (account_of_run hw hr) ih hc

theorem times_turn (k : Metric) (ts : List Turn) (call : Create) (m : Move) (w w' : World) :
    times k (reported c (ts ++ [⟨call, m, w, w'⟩])) =
      times k (reported c ts) + times k (call.reports c m) := by
  simp [reported]

/-- **A call counts what it did.** Side paths aside, the reports of a history count its share. -/
theorem times_of_run (hw : 0 < c.bounds.workers) (h : Run c author content ts call) {k : Metric}
    (hk : ∀ path, k ≠ .degraded path) :
    times k (reported c ts) = share (log c author content ts) call.stage k := by
  induction h with
  | start =>
    cases k with
    | fanoutWrites ok => cases ok <;> rfl
    | _ => rfl
  | turn hr hs ih =>
    obtain ⟨hcall, hc⟩ := course_of_run hr hs
    have hturn := share_turn (account_of_run hw hr) (manned_of_run hw hr) hc hk
    rw [times_turn, ih, log_turn hs, hcall]
    exact hturn.symm

end Create

/-! #### Calls that have ended -/

namespace CreateStage

/-- The call has returned, or is broken. -/
def ended : CreateStage → Bool
  | .finished _ | .broken => true
  | _ => false

/-- The call has returned, and told of a post that it recorded. -/
def told : CreateStage → Bool
  | .finished r => (recordedId? r).isSome
  | _ => false

/-- The call is broken, and had recorded its post. -/
def jammed (l : Log) : CreateStage → Bool
  | .broken => !l.saved.isEmpty
  | _ => false

end CreateStage

namespace Create

/-- What the log of a call that has ended holds. -/
structure Reckoned (l : Log) (stage : CreateStage) : Prop where
  saved : l.saved.length = stage.told.toNat + (stage.jammed l).toNat
  reached : (Fanout.reached l.writes).length = (l.report.map (·.delivered.length)).getD 0
  missed : (Fanout.missed l.writes).length = (l.report.map (·.failed)).getD 0
  dispatched : ∀ s ∈ l.report, s.dispatched = s.delivered.length + s.failed
  timed : l.timed = (stage.told && !l.followers.isEmpty)

variable {c : Config} {author : UserId} {content : String} {l : Log} {stage : CreateStage}

/-- A call that told of its post has the report of its fan-out. -/
theorem reckoned_of_settled {t : Trail} {s : Spread} {r : Except Failure PostId}
    (hs : Fanout.Settled t.followers t.writes s) (hsaved : l.saved = [(t.draft, t.id)])
    (hwrites : l.writes = t.writes) (hreport : l.report = some s)
    (hid : recordedId? r = some t.id) : Reckoned l (.finished r) where
  saved := by
    rw [hsaved]
    simp [CreateStage.told, CreateStage.jammed, hid]
  reached := by
    rw [hwrites, hreport]
    exact hs.delivered.length_eq.symm
  missed := by
    rw [hwrites, hreport]
    exact hs.failed.symm
  dispatched := by
    rw [hreport]
    rintro _ ⟨⟩
    exact hs.dispatched
  timed := by simp [Log.timed, hreport, CreateStage.told, hid]

theorem reckoned_of_account (h : Account c author content l stage) (hs : stage.ended) :
    Reckoned l stage := by
  cases h with
  | @unsaved _ r hu hr =>
    have htold : (CreateStage.finished r).told = false := by simp [CreateStage.told, hr]
    cases hu with
    | asked | saving =>
      refine ⟨?_, rfl, rfl, nofun, ?_⟩
      · rw [htold]
        rfl
      · rw [htold]
        rfl
  | undated => exact ⟨rfl, rfl, rfl, nofun, rfl⟩
  | @jammed t hd hw =>
    have hwrites : (t.spread author).writes = [] := hw
    refine ⟨rfl, ?_, ?_, nofun, rfl⟩
    · rw [hwrites]
      rfl
    · rw [hwrites]
      rfl
  | launched hk hp | announced hk hp => exact reckoned_of_settled hk.settled rfl rfl rfl rfl
  | unannounced hk hp hf => exact reckoned_of_settled hk.settled rfl rfl rfl hf
  | _ => cases hs

end Create

/-! ### Calls that read -/

namespace Read

/-- What is reported in a history. -/
def reported (ts : List Turn) : List Report := ts.flatMap fun t => t.call.reports t.move

/-- What a call counts by what it was told, side paths aside. -/
def share (l : Log) : Metric → Nat
  | .timelineReads true => (l.found.bind slice?).isSome.toNat
  | .timelineReads false => (l.answer.any (·.isOk)).toNat
  | _ => 0

variable {c : Config} {user : UserId} {ts : List Turn} {cancelled : Bool} {call : Read}
  {work : List Refill} {l : Log} {m : Move} {stage next : ReadStage} {k : Metric}

/-- Each step counts what its call's share grows by. -/
theorem share_turn (cancelled : Bool) (h : Told c user stage l)
    (hn : next? c ⟨user, stage⟩ m = some next) (hk : ∀ path, k ≠ .degraded path) :
    share (l.turn c ⟨⟨user, stage⟩, cancelled, m⟩) k =
      share l k + times k (reports ⟨user, stage⟩ m) := by
  have failed (path : SidePath) (failure : String) {n n' : Nat} (hn : n' = n) :
      n' = n + times k (sidePathFailed path user none failure) := by
    rw [times_sidePathFailed_of_ne hk, hn, Nat.add_zero]
  cases h with
  | start =>
    cases m with
    | cached reply =>
      match reply with
      | .ok none | .ok (some []) | .ok (some (p :: posts)) =>
        cases k with
        | timelineReads fromCache => cases fromCache <;> rfl
        | _ => rfl
      | .error e =>
        refine failed .cacheRead e.message ?_
        cases k with
        | timelineReads fromCache => cases fromCache <;> rfl
        | _ => rfl
    | _ => simp [next?] at hn
  | missed hs =>
    cases m with
    | versioned reply =>
      cases reply with
      | ok version => rfl
      | error e => exact failed .cacheVersion e.message rfl
    | _ => simp [next?] at hn
  | querying version hs =>
    cases m with
    | queried reply =>
      cases reply <;> cases k with
      | timelineReads fromCache => cases fromCache <;> rfl
      | _ => rfl
    | cancelled => rfl
    | _ => simp [next?] at hn
  | refilling version p posts hs =>
    cases m with
    | waited => rfl
    | _ => simp [next?] at hn
  | hit hs | answered version answer hs | cutOff version hs =>
    rw [next?_finished] at hn
    cases hn

theorem times_turn (k : Metric) (ts : List Turn) (call : Read) (cancelled : Bool) (m : Move) :
    times k (reported (ts ++ [⟨call, cancelled, m⟩])) =
      times k (reported ts) + times k (call.reports m) := by
  simp [reported]

/-- **A call counts what it answered.** Side paths aside, the reports of a history count its
share. -/
theorem times_of_watched (h : Watched c user ts cancelled call work)
    (hk : ∀ path, k ≠ .degraded path) : times k (reported ts) = share (log c ts) k := by
  induction h with
  | start =>
    cases k with
    | timelineReads fromCache => cases fromCache <;> rfl
    | _ => rfl
  | cancel _ ih => exact ih
  | @turn ts cancelled call next refills m hr hh hs ih =>
    obtain ⟨stage, hn, rfl⟩ := Option.map_eq_some_iff.mp hs
    obtain ⟨rfl, told, -, -⟩ := followed_of_watched hr
    have hturn := share_turn cancelled told hn hk
    rw [times_turn, ih, log_snoc]
    exact hturn.symm
  | refill _ _ _ ih => exact ih

/-- A call that is done was served just if it succeeded, by the cache or by the store. -/
theorem served_of_told (h : Told c user stage l) {r : Except Failure (List Post)}
    (hr : result? ⟨user, stage⟩ = some r) :
    share l (.timelineReads true) + share l (.timelineReads false) = r.isOk.toNat := by
  cases h with
  | hit hs =>
    cases hr
    simp [share, hs, Except.isOk, Except.toBool]
  | answered version answer hs =>
    cases hr
    cases answer <;> simp [share, Read.missed, hs, Except.isOk, Except.toBool]
  | cutOff version hs =>
    cases hr
    simp [share, Read.missed, hs, Except.isOk, Except.toBool]
  | _ => cases hr

end Read

/-! ### Retries -/

/-- How many attempts were made by a stage. -/
def RetryStage.Paced (maxAttempts made : Nat) : RetryStage → Prop
  | .attempting n => made + 1 = n
  | .pausing n => made = n
  | .accepted => True
  | .exhausted => maxAttempts ≤ made
  | .broken => made < maxAttempts

namespace Tries
open Retry (attempts reportsOf)

/-- All attempts that may be made were, and none was accepted. -/
def usedUp (t : Tries) : Bool :=
  t.retry.stage ≠ .accepted ∧ t.retry.maxAttempts ≤ attempts t.acts

/-- No more is done. -/
def stopped (t : Tries) : Prop := t.retry.ended ∨ t.retry.stage = .broken

/-- The attempts by the stage of a retry, and what it counted. -/
structure Paced (t : Tries) : Prop where
  made : t.retry.stage.Paced t.retry.maxAttempts (attempts t.acts)
  counted : ∀ k, times k (reportsOf t.acts) =
    if .publishFailures = k ∧ t.retry.stage = .exhausted then 1 else 0

theorem paced_start (event : Event) (maxAttempts backoff : Nat) :
    Paced ⟨.start event maxAttempts backoff, []⟩ :=
  ⟨rfl, fun _ => (if_neg fun h => nomatch h.2).symm⟩

theorem paced_of_launched {c : Config} {call : Create} {m : Create.Move} {r : Retry}
    (h : call.launched? c m = some r) : Paced ⟨r, []⟩ := by
  unfold Create.launched? at h
  split at h
  next =>
    split at h
    next =>
      cases h
      exact paced_start ..
    next => cases h
  next => cases h

theorem reportsOf_acts (r : Retry) (m : Retry.Move) : reportsOf (r.acts m) = r.reports m := by
  unfold Retry.acts
  rw [Retry.reportsOf_append, Retry.reportsOf_reported]
  split
  next => rfl
  next n _ => cases r.pause? n <;> rfl
  next => rfl

theorem times_turn (k : Metric) (t : Tries) (m : Retry.Move) :
    times k (reportsOf (t.acts ++ t.retry.acts m)) =
      times k (reportsOf t.acts) + times k (t.retry.reports m) := by
  rw [Retry.reportsOf_append, times_append, reportsOf_acts]

variable {event : Event} {maxAttempts backoff n : Nat}

theorem attempts_published (reply : Except PublishError Unit) :
    attempts (Retry.acts ⟨event, maxAttempts, backoff, .attempting n⟩ (.published reply)) = 1 :=
  Retry.attempts_round _

theorem attempts_rested :
    attempts (Retry.acts ⟨event, maxAttempts, backoff, .pausing n⟩ .rested) = 0 := by
  simp only [Retry.acts]
  cases Retry.pause? ⟨event, maxAttempts, backoff, .pausing n⟩ n <;> rfl

theorem paced_refused (r : Retry) {made : Nat} (h : made + 1 = n) :
    (r.refusedStage n).Paced r.maxAttempts (made + 1) := by
  unfold Retry.refusedStage
  split
  next hn =>
    split
    · exact h
    · exact h ▸ hn
  next hn => exact h ▸ Nat.not_lt.mp hn

theorem counted_refused (e : PublishError) (k : Metric) :
    let r : Retry := ⟨event, maxAttempts, backoff, .attempting n⟩
    times k (r.reports (.published (.error e))) =
      if .publishFailures = k ∧ r.refusedStage n = .exhausted then 1 else 0 := by
  intro r
  unfold Retry.refusedStage
  by_cases hn : n < maxAttempts
  · simp only [Retry.reports, r, if_pos hn]
    split <;> simp
  · simp [Retry.reports, r, if_neg hn]

theorem Paced.step {t : Tries} {m : Retry.Move} {next : Retry} (h : t.Paced)
    (hs : t.retry.step? m = some next) : Paced ⟨next, t.acts ++ t.retry.acts m⟩ := by
  obtain ⟨⟨event, maxAttempts, backoff, stage⟩, acts⟩ := t
  obtain ⟨made, counted⟩ := h
  obtain ⟨hnext, hc⟩ := Retry.course_of_step? hs
  generalize next.stage = after at hnext hc
  subst hnext
  constructor
  · show after.Paced maxAttempts _
    rw [Retry.attempts_append]
    cases hc with
    | accepted n => trivial
    | refused n e =>
      rw [attempts_published]
      exact paced_refused ⟨event, maxAttempts, backoff, .attempting n⟩ made
    | rested n =>
      rw [attempts_rested]
      exact congrArg (· + 1) made
  · intro k
    have hcounted := counted k
    rw [times_turn k ⟨⟨event, maxAttempts, backoff, stage⟩, acts⟩ m]
    cases hc with
    | accepted n => simpa [Retry.reports] using hcounted
    | refused n e =>
      rw [counted_refused]
      simpa using hcounted
    | rested n => simpa [Retry.reports] using hcounted

theorem Paced.times_of_stopped {t : Tries} (h : t.Paced) (ht : t.stopped) :
    times .publishFailures (reportsOf t.acts) = t.usedUp.toNat := by
  obtain ⟨made, counted⟩ := h
  rw [counted]
  unfold usedUp
  rcases ht with (hs | hs) | hs
  · simp [hs]
  · rw [hs] at made
    have hmade : t.retry.maxAttempts ≤ attempts t.acts := made
    simp [hs, hmade]
  · rw [hs] at made
    have hmade : ¬t.retry.maxAttempts ≤ attempts t.acts := Nat.not_le.mpr made
    simp [hs, hmade]

end Tries
end Timelines.Service
