import Timelines.Proofs.Service.Requests

/-! What a history of a call comes to.

A log is kept of a history: the requests made, and what they were answered. `Account` says for each
stage what the log holds by then, and `account_of_run` that every history keeps such a log: an
author and a draft, a save, the followers, the writes of the fan-out, the upkeep of those it was
meant for and an announcement, in this order. -/
namespace Timelines.Service

/-- The report of the fan-out that a stage carries. -/
def CreateStage.report? : CreateStage → Option Spread
  | .maintaining _ _ s _ _ | .naming _ _ s | .announcing _ _ s _ => some s
  | _ => none

/-- What a call has asked for, and what it was answered. -/
structure Log where
  made : List Request
  /-- The graph said that it knows the author. -/
  known : Bool := false
  saved : List (Draft × PostId) := []
  /-- The followers that the graph named, none if it failed. -/
  named : Option (List UserId) := none
  writes : List Fanout.Write := []
  report : Option Spread := none
  /-- The followers whose upkeep was answered. -/
  upkept : List UserId := []
  /-- The events that the publisher accepted. -/
  accepted : List Event := []
  launched : List Retry := []

/-- The posts that were saved. -/
def Log.posts (l : Log) : List Post := l.saved.map fun s => s.1.toPost s.2

/-- The log after a turn that led to a stage. -/
def Log.turn (c : Config) (l : Log) (t : Turn) (next : CreateStage) : Log where
  made := l.made ++ t.call.stage.asked c t.call.author t.move next
  known :=
    match t.move with
    | .lookedUp (.ok true) => true
    | _ => l.known
  saved := l.saved ++ t.saved?.toList
  named :=
    match t.move with
    | .resolved reply => some (reply.toOption.getD [])
    | _ => l.named
  writes :=
    match t.call.stage, t.move with
    | .spreading _ f, .spread m => f.noted l.writes m
    | _, _ => l.writes
  report := next.report?.or l.report
  upkept :=
    match t.move with
    | .maintained u _ => l.upkept ++ [u]
    | _ => l.upkept
  accepted :=
    match t.call.stage, t.move with
    | .announcing _ _ _ event, .announced (.ok ()) => l.accepted ++ [event]
    | _, _ => l.accepted
  launched := l.launched ++ (t.call.launched? c t.move).toList

namespace Create

/-- The log of a history. -/
def log (c : Config) (author : UserId) (content : String) (ts : List Turn) : Log :=
  ts.foldl
    (fun l t => match t.call.next? c t.move with
      | some next => l.turn c t next
      | none => l)
    { made := (start author content).underWay c }

variable {c : Config} {author : UserId} {content : String} {ts : List Turn} {call next : Create}

theorem log_turn {m : Move} {w w' : World} (h : (machine c).Step call w m next w') :
    log c author content (ts ++ [⟨call, m, w, w'⟩]) =
      (log c author content ts).turn c ⟨call, m, w, w'⟩ next.stage := by
  have hn : call.next? c m = some next.stage := by
    cases h with
    | own hm hs | answered hq hw hs =>
      obtain ⟨stage, hn, rfl⟩ := Option.map_eq_some_iff.mp hs
      exact hn
  simp only [log, List.foldl_append, List.foldl_cons, List.foldl_nil, hn]

/-- A step of a call, after a history of it. -/
theorem course_of_run {m : Move} {w w' : World} (hr : Run c author content ts call)
    (hs : (machine c).Step call w m next w') :
    call = ⟨author, content, call.stage⟩ ∧
      Course c author content w call.stage m next.stage w' := by
  obtain ⟨rfl, rfl, -⟩ := tells_of_run hr
  exact ⟨rfl, (course_of_step hs).2.2⟩

/-! ### Followers, each once -/

theorem distinct_from (users seen : List UserId) (h : seen.Nodup) :
    let ds := users.foldl (fun seen u => if u ∈ seen then seen else seen ++ [u]) seen
    ds.Nodup ∧ ∀ u, u ∈ ds ↔ u ∈ seen ∨ u ∈ users := by
  induction users generalizing seen with
  | nil => exact ⟨h, fun u => by simp⟩
  | cons v users ih =>
    rw [List.foldl_cons]
    split
    next hv =>
      obtain ⟨hn, hm⟩ := ih seen h
      refine ⟨hn, fun u => ?_⟩
      rw [hm, List.mem_cons]
      refine ⟨Or.imp_right .inr, ?_⟩
      rintro (hu | rfl | hu)
      · exact .inl hu
      · exact .inl hv
      · exact .inr hu
    next hv =>
      obtain ⟨hn, hm⟩ := ih (seen ++ [v]) (List.nodup_append_comm.mp (List.nodup_cons.mpr ⟨hv, h⟩))
      refine ⟨hn, fun u => ?_⟩
      rw [hm, List.mem_append, List.mem_singleton, List.mem_cons, or_assoc]

theorem nodup_distinct (users : List UserId) : (distinct users).Nodup :=
  (distinct_from users [] .nil).1

theorem mem_distinct {users : List UserId} {u : UserId} : u ∈ distinct users ↔ u ∈ users := by
  have hm := (distinct_from users [] .nil).2 u
  rwa [or_iff_right List.not_mem_nil] at hm

/-! ### The course of a history -/

/-- A draft of the author's content, which obeys the rule. -/
def Drafted (author : UserId) (content : String) (draft : Draft) : Prop :=
  Draft.make author content draft.createdAt = .ok draft

theorem drafted_of_make {moment : Moment} {draft : Draft}
    (h : Draft.make author content moment = .ok draft) : Drafted author content draft := by
  have hmake := h
  unfold Draft.make at h
  cases hc : checkContent content with
  | ok _ =>
    rw [hc] at h
    cases h
    exact hmake
  | error v =>
    rw [hc] at h
    cases h

/-- A log without a save. -/
inductive Unsaved (author : UserId) (content : String) : Log → Prop
  | asked (known : Bool) : Unsaved author content { made := [.userExists author], known }
  | saving {draft : Draft} : Drafted author content draft →
      Unsaved author content { made := [.userExists author, .save draft], known := true }

/-- What a call has come to that recorded a post. -/
structure Trail where
  draft : Draft
  id : PostId
  named : List UserId
  writes : List Fanout.Write

namespace Trail

def post (t : Trail) : Post := t.draft.toPost t.id

/-- The followers, each once. -/
def followers (t : Trail) : List UserId := distinct t.named

/-- The log before the upkeep. -/
def spread (author : UserId) (t : Trail) : Log where
  made := [.userExists author, .save t.draft, .followers author] ++
    t.writes.map (Fanout.Write.request t.post)
  known := true
  saved := [(t.draft, t.id)]
  named := some t.named
  writes := t.writes

/-- The log with the upkeep of some followers, answered for some of them. -/
def upkeep (c : Config) (author : UserId) (t : Trail) (s : Spread) (taken upkept : List UserId) :
    Log :=
  { t.spread author with
    made := (t.spread author).made ++ taken.map fun u => (Create.upkeep c t.post u).request
    report := some s
    upkept }

/-- The log with an announcement. -/
def announced (c : Config) (author : UserId) (t : Trail) (s : Spread) (upkept : List UserId)
    (event : Event) (accepted : List Event) : Log :=
  let l := t.upkeep c author s (targets c t.followers s) upkept
  { l with made := l.made ++ [.publish event], accepted }

/-- The fan-out is over, and the upkeep of all it was meant for was answered. -/
structure Upkept (c : Config) (author : UserId) (content : String) (t : Trail) (s : Spread)
    (upkept : List UserId) : Prop where
  drafted : Drafted author content t.draft
  settled : Fanout.Settled t.followers t.writes s
  upkept : upkept.Perm (targets c t.followers s)

end Trail

/-- What the log of a history holds by a stage. -/
inductive Account (c : Config) (author : UserId) (content : String) : Log → CreateStage → Prop
  | lookingUp : Account c author content { made := [.userExists author] } .lookingUp
  | dating : Account c author content { made := [.userExists author], known := true } .dating
  | recording {draft : Draft} : Drafted author content draft →
      Account c author content { made := [.userExists author, .save draft], known := true }
        (.recording draft)
  | unsaved {l : Log} {r : Except Failure PostId} : Unsaved author content l →
      recordedId? r = none → Account c author content l (.finished r)
  | undated : Account c author content { made := [.userExists author], known := true } .broken
  | resolving {draft : Draft} {id : PostId} : Drafted author content draft →
      Account c author content
        { made := [.userExists author, .save draft, .followers author], known := true
          saved := [(draft, id)] }
        (.resolving (draft.toPost id))
  | jammed {t : Trail} : Drafted author content t.draft → t.writes = [] →
      Account c author content (t.spread author) .broken
  | spreading {t : Trail} {f : Fanout} : Drafted author content t.draft →
      Fanout.History c.bounds t.post t.followers t.writes f →
      Account c author content (t.spread author) (.spreading t.followers f)
  | maintaining {t : Trail} {n : Nat} {s : Spread} {taken waiting running upkept : List UserId} :
      Drafted author content t.draft → Fanout.Settled t.followers t.writes s →
      taken ++ waiting = targets c t.followers s → (upkept ++ running).Perm taken →
      Account c author content (t.upkeep c author s taken upkept)
        (.maintaining t.post n s waiting running)
  | naming {t : Trail} {n : Nat} {s : Spread} {upkept : List UserId} :
      t.Upkept c author content s upkept →
      Account c author content (t.upkeep c author s (targets c t.followers s) upkept)
        (.naming t.post n s)
  | launched {t : Trail} {s : Spread} {upkept : List UserId} {attempts backoff : Nat}
      {correlation : Uuid} : t.Upkept c author content s upkept →
      c.publish = .bestEffort attempts backoff →
      Account c author content
        { t.upkeep c author s (targets c t.followers s) upkept with
          launched := [.start (.announcing t.post correlation) attempts backoff] }
        (.finished (.ok t.id))
  | announcing {t : Trail} {n : Nat} {s : Spread} {upkept : List UserId} {correlation : Uuid} :
      t.Upkept c author content s upkept → c.publish = .strict →
      Account c author content (t.announced c author s upkept (.announcing t.post correlation) [])
        (.announcing t.post n s (.announcing t.post correlation))
  | announced {t : Trail} {s : Spread} {upkept : List UserId} {correlation : Uuid} :
      t.Upkept c author content s upkept → c.publish = .strict →
      Account c author content
        (t.announced c author s upkept (.announcing t.post correlation)
          [.announcing t.post correlation])
        (.finished (.ok t.id))
  | unannounced {t : Trail} {s : Spread} {upkept : List UserId} {correlation : Uuid}
      {failure : Failure} : t.Upkept c author content s upkept → c.publish = .strict →
      failure.recorded? = some t.id →
      Account c author content (t.announced c author s upkept (.announcing t.post correlation) [])
        (.finished (.error failure))

variable {l : Log} {before after : CreateStage} {m : Move} {w w' : World}

/-- An account of the log with what a turn added to it written out. -/
theorem Account.turn {made : List Request} {report : Option Spread} {launched : List Retry}
    (hm : l.made ++ before.asked c author m after = made)
    (hr : after.report?.or l.report = report)
    (hl : l.launched ++ (launched? c ⟨author, content, before⟩ m).toList = launched)
    (h : Account c author content
      { l.turn c ⟨⟨author, content, before⟩, m, w, w'⟩ after with made, report, launched } after) :
    Account c author content (l.turn c ⟨⟨author, content, before⟩, m, w, w'⟩ after) after := by
  subst hm hr hl
  exact h

/-- A turn that makes no request. -/
theorem Account.quiet (hr : after.requests c author = [])
    (h : Account c author content
      { l.turn c ⟨⟨author, content, before⟩, m, w, w'⟩ after with made := l.made } after) :
    Account c author content (l.turn c ⟨⟨author, content, before⟩, m, w, w'⟩ after) after :=
  .turn (by rw [CreateStage.asked_eq_nil hr, List.append_nil]) rfl rfl h

/-! ### The fan-out -/

variable {t : Trail} {s : Spread}

theorem report?_afterSpread (c : Config) (post : Post) (followers : List UserId) (s : Spread) :
    (afterSpread c post followers s).report? = some s := by
  unfold afterSpread
  split <;> rfl

theorem account_afterSpread (hd : Drafted author content t.draft)
    (hs : Fanout.Settled t.followers t.writes s) :
    Account c author content (t.upkeep c author s [] []) (afterSpread c t.post t.followers s) := by
  unfold afterSpread
  split
  next ht =>
    have hupkept : t.Upkept c author content s [] := ⟨hd, hs, by rw [ht]⟩
    have hn : Account c author content _ (.naming t.post t.followers.length s) := .naming hupkept
    rwa [ht] at hn
  next => exact .maintaining hd hs rfl .nil

/-- Without followers there is nothing to spread. -/
theorem afterSpread_nil (c : Config) (post : Post) :
    afterSpread c post [] ⟨0, [], 0, false⟩ = .naming post 0 ⟨0, [], 0, false⟩ := by
  unfold afterSpread targets
  cases c.maintenance <;> rfl

theorem settled_nil : Fanout.Settled [] [] ⟨0, [], 0, false⟩ :=
  ⟨rfl, nofun, .nil, rfl, rfl, by simp⟩

/-- The fan-out is told the followers, each once. -/
theorem account_resolved {draft : Draft} {id : PostId} (hd : Drafted author content draft)
    (reply : Except GraphError (List UserId)) :
    let l : Log :=
      { made := [.userExists author, .save draft, .followers author], known := true
        saved := [(draft, id)] }
    let next := afterResolving c (draft.toPost id) (distinct (reply.toOption.getD []))
    Account c author content
      (l.turn c ⟨⟨author, content, .resolving (draft.toPost id)⟩, .resolved reply, w, w'⟩ next)
      next := by
  intro l next
  let t : Trail := ⟨draft, id, reply.toOption.getD [], []⟩
  have hnext : next = afterResolving c t.post t.followers := rfl
  have hquiet : next.requests c author = [] := requests_afterResolving ..
  clear_value next
  unfold afterResolving at hnext
  split at hnext
  next hnil =>
    subst hnext
    have hs : Fanout.Settled t.followers t.writes ⟨0, [], 0, false⟩ := by
      rw [hnil]
      exact settled_nil
    have ha := account_afterSpread (c := c) hd hs
    rw [hnil, afterSpread_nil] at ha
    exact .quiet hquiet ha
  next =>
    split at hnext
    next =>
      subst hnext
      exact .quiet hquiet (.jammed (t := t) hd rfl)
    next =>
      subst hnext
      exact .quiet hquiet (.spreading (t := t) hd .start)

theorem account_spread (hw : 0 < c.bounds.workers) {f f' : Fanout} {move : Fanout.Move}
    (hd : Drafted author content t.draft)
    (hh : Fanout.History c.bounds t.post t.followers t.writes f) (hf : f.step? move = some f') :
    Account c author content
      ((t.spread author).turn c
        ⟨⟨author, content, .spreading t.followers f⟩, .spread move, w, w'⟩
        (spreadStage c t.followers f'))
      (spreadStage c t.followers f') := by
  let t' : Trail := { t with writes := f.noted t.writes move }
  have hsound := Fanout.sound_of_history hh
  have hh' : Fanout.History c.bounds t'.post t'.followers t'.writes f' := .move hh hf
  have hsound' := Fanout.sound_of_history hh'
  have hmade : (t.spread author).made ++ (CreateStage.spreading t.followers f).asked c author
      (.spread move) (spreadStage c t.followers f') = (t'.spread author).made := by
    have hnoted := Fanout.noted_requests hsound.placed (Fanout.course_of_step hf) t.writes
    rw [hsound.post] at hnoted
    show _ ++ List.diff _ _ = _ ++ (f.noted t.writes move).map (Fanout.Write.request t.post)
    rw [requests_spreadStage c author hsound'.placed, hnoted, ← List.append_assoc]
    rfl
  generalize hnext : spreadStage c t.followers f' = next at hmade ⊢
  unfold spreadStage at hnext
  split at hnext
  next hfinished =>
    have ha := account_afterSpread (c := c) (t := t') hd (hsound'.settled hw hfinished)
    rw [← show f'.post = t'.post from hsound'.post] at ha
    subst hnext
    refine .turn (hmade.trans (List.append_nil _).symm) ?_ rfl ha
    rw [report?_afterSpread]
    rfl
  next =>
    subst hnext
    exact .turn hmade rfl rfl (.spreading (t := t') hd hh')

/-! ### The upkeep -/

/-- The next follower's upkeep is asked for. -/
theorem made_maintain (taken upkept : List UserId) (n : Nat) (u : UserId)
    (waiting running : List UserId) :
    (t.upkeep c author s taken upkept).made ++
        (CreateStage.maintaining t.post n s (u :: waiting) running).asked c author .maintain
          (.maintaining t.post n s waiting (running ++ [u])) =
      (t.upkeep c author s (taken ++ [u]) upkept).made := by
  have hperm : (running ++ [u]).Perm (u :: running) := List.perm_append_singleton ..
  have hask : (CreateStage.maintaining t.post n s (u :: waiting) running).asked c author .maintain
      (.maintaining t.post n s waiting (running ++ [u])) = [(Create.upkeep c t.post u).request] :=
    diff_of_perm_cons (hperm.map _)
  rw [hask]
  show _ ++ List.map _ taken ++ _ = _ ++ List.map _ (taken ++ [u])
  rw [List.map_append, List.append_assoc]
  rfl

/-- The end of a follower's upkeep, whether it failed or not. -/
theorem account_maintained {n : Nat} {taken waiting running upkept : List UserId} {u : UserId}
    (hd : Drafted author content t.draft) (hs : Fanout.Settled t.followers t.writes s)
    (htaken : taken ++ waiting = targets c t.followers s) (hupkept : (upkept ++ running).Perm taken)
    (hu : u ∈ running) (reply : Except CacheError Unit) :
    Account c author content
      ((t.upkeep c author s taken upkept).turn c
        ⟨⟨author, content, .maintaining t.post n s waiting running⟩, .maintained u reply, w, w'⟩
        (upkeepStage t.post n s waiting (running.erase u)))
      (upkeepStage t.post n s waiting (running.erase u)) := by
  have hperm : running.Perm (u :: running.erase u) := List.perm_cons_erase hu
  have hask : (CreateStage.maintaining t.post n s waiting running).asked c author
      (.maintained u reply) (upkeepStage t.post n s waiting (running.erase u)) = [] := by
    unfold CreateStage.asked
    rw [requests_upkeepStage]
    refine diff_of_perm ?_
    have herase := (hperm.map fun u => (Create.upkeep c t.post u).request).erase
      (Create.upkeep c t.post u).request
    rw [List.map_cons, List.erase_cons_head] at herase
    exact herase.symm
  have hover : (upkept ++ [u] ++ running.erase u).Perm taken := by
    rw [List.append_assoc]
    exact (hperm.symm.append_left upkept).trans hupkept
  have hmade : (t.upkeep c author s taken upkept).made ++
      (CreateStage.maintaining t.post n s waiting running).asked c author (.maintained u reply)
        (upkeepStage t.post n s waiting (running.erase u)) =
      (t.upkeep c author s taken (upkept ++ [u])).made := by
    rw [hask]
    exact List.append_nil _
  unfold upkeepStage at hmade ⊢
  split
  next hrunning =>
    rw [List.append_nil] at htaken
    rw [htaken] at hmade hover ⊢
    rw [hrunning, List.append_nil] at hover
    rw [hrunning] at hmade
    exact .turn hmade rfl rfl (.naming ⟨hd, hs, hover⟩)
  next hnot =>
    refine .turn ?_ rfl rfl (.maintaining hd hs htaken hover)
    split at hmade
    next hrunning => exact absurd hrunning (hnot rfl)
    next => exact hmade

/-! ### Histories -/

theorem account_turn (hw : 0 < c.bounds.workers)
    (h : Account c author content l before) (hc : Course c author content w before m after w') :
    Account c author content (l.turn c ⟨⟨author, content, before⟩, m, w, w'⟩ after) after := by
  cases hc with
  | known =>
    cases h
    exact .quiet rfl .dating
  | unknown | notLookedUp _ | cancelledLookingUp =>
    cases h
    exact .quiet rfl (.unsaved (.asked false) rfl)
  | dated hd =>
    cases h
    exact .turn rfl rfl rfl (.recording (drafted_of_make hd))
  | invalid hv =>
    cases h
    exact .quiet rfl (.unsaved (.asked true) rfl)
  | undated =>
    cases h
    exact .quiet rfl .undated
  | recorded draft hid =>
    cases h with
    | recording hd => exact .turn rfl rfl rfl (.resolving hd)
  | notRecorded draft _ | cancelledRecording draft =>
    cases h with
    | recording hd => exact .quiet rfl (.unsaved (.saving hd) rfl)
  | resolved post followers =>
    cases h with
    | resolving hd => exact account_resolved hd (.ok followers)
  | notResolved post e =>
    cases h with
    | resolving hd => exact account_resolved hd (.error e)
  | spread followers hf _ | wrote followers _ _ hf | notWritten followers hf =>
    cases h with
    | spreading hd hh => exact account_spread hw hd hh hf
  | maintain post n s u waiting running hlt =>
    cases h with
    | maintaining hd hs htaken hupkept =>
      refine .turn (made_maintain ..) rfl rfl (.maintaining hd hs ?_ ?_)
      · exact (List.append_cons ..).symm.trans htaken
      · rw [← List.append_assoc]
        exact hupkept.append_right [u]
  | maintained post n s waiting _ hu | notMaintained post n s waiting _ hu =>
    cases h with
    | maintaining hd hs htaken hupkept => exact account_maintained hd hs htaken hupkept hu _
  | named post n s correlation hp =>
    cases h with
    | naming hk => exact .turn rfl rfl (by simp only [launched?, hp]; rfl) (.announcing hk hp)
  | launched post n s correlation hp =>
    cases h with
    | naming hk =>
      exact .turn (List.append_nil _) rfl (by simp only [launched?, hp]; rfl) (.launched hk hp)
  | announced post n s event =>
    cases h with
    | announcing hk hp => exact .quiet rfl (.announced hk hp)
  | notAnnounced post n s event _ | cancelledAnnouncing post n s event =>
    cases h with
    | announcing hk hp => exact .quiet rfl (.unannounced hk hp rfl)

/-- Every history has its account. -/
theorem account_of_run (hw : 0 < c.bounds.workers) (h : Run c author content ts call) :
    Account c author content (log c author content ts) call.stage := by
  induction h with
  | start => exact .lookingUp
  | @turn ts call next m w w' hr hs ih =>
    obtain ⟨hcall, hc⟩ := course_of_run hr hs
    rw [log_turn hs, hcall]
    exact account_turn hw ih hc

/-! ### What an account tells -/

/-- A log with a report is that of a post whose fan-out is over. -/
theorem Account.reported {stage : CreateStage} (h : Account c author content l stage)
    (hs : l.report = some s) :
    ∃ t : Trail, Drafted author content t.draft ∧ Fanout.Settled t.followers t.writes s ∧
      l.saved = [(t.draft, t.id)] ∧ l.named = some t.named ∧ l.writes = t.writes := by
  cases h with
  | unsaved hu hr => cases hu <;> cases hs
  | maintaining hd hsettled htaken hupkept =>
    cases hs
    exact ⟨_, hd, hsettled, rfl, rfl, rfl⟩
  | naming hk | launched hk hp | announcing hk hp | announced hk hp | unannounced hk hp hf =>
    cases hs
    exact ⟨_, hk.drafted, hk.settled, rfl, rfl, rfl⟩
  | _ => cases hs

/-- A call that has ended and tells of a post has a report. -/
theorem Account.report_of_finished {r : Except Failure PostId} {id : PostId}
    (h : Account c author content l (.finished r)) (hid : recordedId? r = some id) :
    ∃ s, l.report = some s ∧ ∃ draft, l.saved = [(draft, id)] := by
  cases h with
  | unsaved hu hr => cases hr.symm.trans hid
  | launched hk hp | announced hk hp =>
    cases hid
    exact ⟨_, rfl, _, rfl⟩
  | unannounced hk hp hf =>
    cases hf.symm.trans hid
    exact ⟨_, rfl, _, rfl⟩

/-- A call that has ended after its fan-out tells of its post; it succeeds if it was not to wait for
the announcement. -/
theorem Account.result_of_report {r : Except Failure PostId} {draft : Draft} {id : PostId}
    (h : Account c author content l (.finished r)) (hs : l.report = some s)
    (hsaved : l.saved = [(draft, id)]) :
    recordedId? r = some id ∧ (c.publish ≠ .strict → r = .ok id) := by
  cases h with
  | unsaved hu hr => cases hu <;> cases hs
  | launched hk hp =>
    cases hsaved
    exact ⟨rfl, fun _ => rfl⟩
  | announced hk hp =>
    cases hsaved
    exact ⟨rfl, fun _ => rfl⟩
  | unannounced hk hp hf =>
    cases hsaved
    exact ⟨hf, fun hne => absurd hp hne⟩

theorem stage_of_result {r : Except Failure PostId} (h : call.result? = some r) :
    call.stage = .finished r := by
  unfold result? at h
  split at h
  next r' hs => rw [hs, Option.some.inj h]
  next => cases h

end Create
end Timelines.Service
