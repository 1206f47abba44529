import Timelines.Proofs.Service.Accounts

/-! A caller who may cancel.

The caller cancels at some time or never, and what is cancelled stays so. A call looks at that
before it goes on: where it waits for the author, for the save or for the announcement it ends there
and then, and a fan-out dispatches nobody any more. `Create.Watched` lists the histories of a call
whose caller may cancel between any two of its moves.

A fan-out that was cut off leaves followers without a write. `result_of_cut`: where the announcement
is waited for, the call then fails with the post that it recorded, and where it is left to the
background, the call succeeds all the same. -/
namespace Timelines.Service.Create

/-- Whether a call goes on so when its caller has cancelled, or has not. -/
def heeds (call : Create) (cancelled : Bool) : Move → Bool
  | .cancelled | .spread .stop => cancelled
  | .spread .dispatch => !cancelled
  | _ => !(cancelled && call.cancellable)

/-- The histories of a call, each with whether its caller has cancelled by then. -/
inductive Watched (c : Config) (author : UserId) (content : String) :
    List Turn → Bool → Create → Prop
  | start : Watched c author content [] false (.start author content)
  | cancel {ts : List Turn} {cancelled : Bool} {call : Create} :
      Watched c author content ts cancelled call → Watched c author content ts true call
  | turn {ts : List Turn} {cancelled : Bool} {call next : Create} {m : Move} {w w' : World} :
      Watched c author content ts cancelled call → call.heeds cancelled m →
      (machine c).Step call w m next w' →
      Watched c author content (ts ++ [⟨call, m, w, w'⟩]) cancelled next

variable {c : Config} {author : UserId} {content : String} {ts : List Turn} {cancelled : Bool}
  {call : Create}

theorem Watched.run (h : Watched c author content ts cancelled call) :
    Run c author content ts call := by
  induction h with
  | start => exact .start
  | cancel _ ih => exact ih
  | turn _ _ hs ih => exact .turn ih hs

/-- Between the turns of a history, nobody changes the store. -/
def Alone : Store.Memory → List Turn → Store.Memory → Prop
  | store, [], store' => store = store'
  | store, t :: ts, store' => store = t.before.store ∧ Alone t.after.store ts store'

theorem alone_append {store store' : Store.Memory} {t : Turn} :
    Alone store (ts ++ [t]) store' ↔ Alone store ts t.before.store ∧ t.after.store = store' := by
  induction ts generalizing store with
  | nil => exact Iff.rfl
  | cons t' ts ih =>
    show _ ∧ Alone _ (ts ++ [t]) _ ↔ (_ ∧ Alone _ ts _) ∧ _
    rw [ih, and_assoc]

theorem Alone.turn {store : Store.Memory} {t : Turn} (h : Alone store ts t.before.store) :
    Alone store (ts ++ [t]) t.after.store :=
  alone_append.mpr ⟨h, rfl⟩

section Moves
variable {stage next : CreateStage} {w w' : World}

theorem step?_of_next? {m : Move} (hn : next? c ⟨author, content, stage⟩ m = some next) :
    (machine c).step? ⟨author, content, stage⟩ m = some ⟨author, content, next⟩ := by
  show (next? c ⟨author, content, stage⟩ m).map _ = _
  rw [hn]
  rfl

theorem Watched.own (h : Watched c author content ts cancelled ⟨author, content, stage⟩) (m : Move)
    (w : World) (hm : m.own) (hh : heeds ⟨author, content, stage⟩ cancelled m)
    (hn : next? c ⟨author, content, stage⟩ m = some next) :
    Watched c author content (ts ++ [⟨⟨author, content, stage⟩, m, w, w⟩]) cancelled
      ⟨author, content, next⟩ :=
  h.turn hh (.own hm (step?_of_next? hn))

theorem Watched.answered (h : Watched c author content ts cancelled ⟨author, content, stage⟩)
    {q : Question Move} (now : Nat) (reply : q.request.Reply)
    (hq : q ∈ questions c ⟨author, content, stage⟩) (hw : w.answer? now q.request reply = some w')
    (hh : heeds ⟨author, content, stage⟩ cancelled (q.answered reply))
    (hn : next? c ⟨author, content, stage⟩ (q.answered reply) = some next) :
    Watched c author content (ts ++ [⟨⟨author, content, stage⟩, q.answered reply, w, w'⟩]) cancelled
      ⟨author, content, next⟩ :=
  h.turn hh (.answered hq hw (step?_of_next? hn))

end Moves

/-- A first post, recorded in an empty store. -/
theorem watched_recorded (c : Config) (cache : Cache.Store) :
    let post := Draft.toPost ⟨⟨"alice"⟩, "hello", default⟩ ⟨.ofNat 1⟩
    ∃ ts, Alone .empty ts ⟨[post], []⟩ ∧
      Watched c ⟨"alice"⟩ "hello" ts false ⟨⟨"alice"⟩, "hello", .resolving post⟩ := by
  intro post
  let draft : Draft := ⟨⟨"alice"⟩, "hello", default⟩
  let w : World := ⟨.empty, cache⟩
  have hdated : next? c ⟨⟨"alice"⟩, "hello", .dating⟩ (.dated (some default)) =
      some (.recording draft) := by
    have hc : checkContent "hello" = .ok () := by
      rw [checkContent, if_neg (by decide), if_neg (by decide)]
    simp only [next?, Draft.make, hc]
    rfl
  have looking : Watched c ⟨"alice"⟩ "hello" [] false ⟨⟨"alice"⟩, "hello", .lookingUp⟩ := .start
  have known := looking.answered (q := ⟨.userExists ⟨"alice"⟩, .lookedUp⟩) (w := w) 0 (.ok true)
    (List.mem_cons_self ..) rfl rfl rfl
  have dated := known.own (.dated (some default)) w rfl rfl hdated
  have recorded := dated.answered (q := ⟨.save draft, .recorded⟩) (w := w) 0 (.ok ⟨.ofNat 1⟩)
    (List.mem_cons_self ..) rfl rfl rfl
  refine ⟨_, ?_, recorded⟩
  show _ ∧ _ ∧ _ ∧ _
  exact ⟨rfl, rfl, rfl, rfl⟩

/-- A first post, recorded in an empty store, and its author's followers known. -/
theorem watched_resolved (c : Config) (cache : Cache.Store) (followers : List UserId) :
    let post := Draft.toPost ⟨⟨"alice"⟩, "hello", default⟩ ⟨.ofNat 1⟩
    ∃ ts, Alone .empty ts ⟨[post], []⟩ ∧
      Watched c ⟨"alice"⟩ "hello" ts false
        ⟨⟨"alice"⟩, "hello", afterResolving c post (distinct followers)⟩ ∧
      (log c ⟨"alice"⟩ "hello" ts).named = some followers := by
  intro post
  obtain ⟨ts, halone, recorded⟩ := watched_recorded c cache
  have resolved := recorded.answered (q := ⟨.followers ⟨"alice"⟩, .resolved⟩)
    (w := ⟨⟨[post], []⟩, cache⟩) 0 (.ok followers) (List.mem_cons_self ..) rfl rfl rfl
  refine ⟨_, halone.turn, resolved, ?_⟩
  rw [log, List.foldl_append]
  rfl

/-! ### Cut off -/

/-- Nothing is cut off but for a caller who has cancelled. A call that has ended with a fan-out cut
off fails with its post, if it was to wait for the announcement. -/
def Cut (c : Config) (l : Log) (cancelled : Bool) : CreateStage → Prop
  | .spreading _ f => f.cut → cancelled
  | .maintaining _ _ s _ _ | .naming _ _ s | .announcing _ _ s _ => s.cancelled → cancelled
  | .finished r => ∀ s, l.report = some s → s.cancelled →
      cancelled ∧ (c.publish = .strict → ∃ id, r = .error (.cancelled (some id)))
  | _ => True

variable {l : Log} {before after : CreateStage} {m : Move} {w w' : World}

theorem Cut.cancel (h : Cut c l cancelled before) : Cut c l true before := by
  cases before with
  | spreading followers f => exact fun _ => rfl
  | maintaining post n s waiting running => exact fun _ => rfl
  | naming post n s => exact fun _ => rfl
  | announcing post n s event => exact fun _ => rfl
  | finished r => exact fun s hs hcut => ⟨rfl, (h s hs hcut).2⟩
  | _ => trivial

theorem cut_of_move {f f' : Fanout} {move : Fanout.Move} (hf : f.step? move = some f')
    (hcut : f'.cut) : f.cut ∨ move = .stop := by
  cases Fanout.course_of_step hf with
  | stop hc => exact .inr rfl
  | _ => exact .inl hcut

theorem cut_spreadStage {f' : Fanout} (followers : List UserId) (h : f'.cut → cancelled) :
    Cut c l cancelled (spreadStage c followers f') := by
  unfold spreadStage afterSpread
  split
  · split <;> exact h
  · exact h

theorem cut_upkeepStage {post : Post} {n : Nat} {s : Spread} {waiting running : List UserId}
    (h : s.cancelled → cancelled) : Cut c l cancelled (upkeepStage post n s waiting running) := by
  unfold upkeepStage
  split <;> exact h

theorem cut_afterResolving (post : Post) (followers : List UserId) :
    Cut c l cancelled (afterResolving c post followers) := by
  unfold afterResolving
  split
  · exact nofun
  · split
    · trivial
    · exact nofun

theorem cut_turn (ha : Account c author content l before) (h : Cut c l cancelled before)
    (hm : heeds ⟨author, content, before⟩ cancelled m)
    (hc : Course c author content w before m after w') :
    Cut c (l.turn c ⟨⟨author, content, before⟩, m, w, w'⟩ after) cancelled after := by
  -- A call that ends before the fan-out has no report of one.
  have unsaved {r : Except Failure PostId} (hreport : l.report = none)
      (hafter : after = .finished r) :
      Cut c (l.turn c ⟨⟨author, content, before⟩, m, w, w'⟩ after) cancelled after := by
    subst hafter
    intro s hs
    simp [Log.turn, CreateStage.report?, hreport] at hs
  cases hc with
  | known | dated _ | undated | recorded _ _ => trivial
  | unknown | notLookedUp _ | invalid _ | notRecorded _ _ | cancelledLookingUp
    | cancelledRecording _ =>
    cases ha
    exact unsaved rfl rfl
  | resolved _ _ | notResolved _ _ => exact cut_afterResolving ..
  | spread followers hf hmove =>
    refine cut_spreadStage followers fun hcut => ?_
    rcases cut_of_move hf hcut with hcut | rfl
    · exact h hcut
    · exact hm
  | wrote followers _ _ hf | notWritten followers hf =>
    exact cut_spreadStage followers fun hcut => h ((cut_of_move hf hcut).resolve_right nofun)
  | maintain _ _ _ _ _ _ _ | named _ _ _ _ _ => exact h
  | maintained _ _ _ _ _ _ | notMaintained _ _ _ _ _ _ => exact cut_upkeepStage h
  | launched post n s correlation hp =>
    cases ha
    rintro s' ⟨⟩ hcut
    exact ⟨h hcut, fun hstrict => absurd (hp.symm.trans hstrict) nofun⟩
  | announced _ _ _ _ | notAnnounced _ _ _ _ _ =>
    -- A caller who has cancelled is told so in place of what the publisher answers.
    cases ha
    rintro s' ⟨⟩ hcut
    have hcancelled := h hcut
    subst hcancelled
    cases hm
  | cancelledAnnouncing post n s event =>
    cases ha
    rintro s' ⟨⟩ hcut
    exact ⟨h hcut, fun _ => ⟨_, rfl⟩⟩

theorem cut_of_watched (hw : 0 < c.bounds.workers)
    (h : Watched c author content ts cancelled call) :
    Cut c (log c author content ts) cancelled call.stage := by
  induction h with
  | start => trivial
  | cancel _ ih => exact ih.cancel
  | @turn ts cancelled call next m w w' hr hm hs ih =>
    obtain ⟨hcall, hc⟩ := course_of_run hr.run hs
    rw [log_turn hs, hcall]
    exact cut_turn (account_of_run hw hr.run) ih (hcall ▸ hm) hc

/-- **A fan-out that was cut off is told of only where the announcement is waited for.** Whatever
the peers answered and whenever the caller cancelled: when a call has ended whose fan-out was cut
off, it has recorded its post and left a follower without a write. If it was to wait for the
announcement it fails as cancelled, with the post's id. If the announcement is left to the
background, it succeeds with the post's id. -/
theorem result_of_cut (hw : 0 < c.bounds.workers) (h : Watched c author content ts cancelled call)
    {r : Except Failure PostId} (hr : call.result? = some r) {s : Spread}
    (hs : (log c author content ts).report = some s) (hcut : s.cancelled) :
    let l := log c author content ts
    ∃ draft id named, l.saved = [(draft, id)] ∧ l.named = some named ∧
      (match c.publish with
        | .strict => r = .error (.cancelled (some id))
        | .bestEffort _ _ => r = .ok id) ∧
      (distinct named).drop s.dispatched ≠ [] ∧
      ∀ u ∈ (distinct named).drop s.dispatched, ∀ x ∈ l.writes, x.follower ≠ u := by
  intro l
  have hstage := stage_of_result hr
  have ha : Account c author content l (.finished r) := hstage ▸ account_of_run hw h.run
  have hc : Cut c l cancelled (.finished r) := hstage ▸ cut_of_watched hw h
  obtain ⟨t, -, hsettled, hsaved, hnamed, hwrites⟩ := ha.reported hs
  refine ⟨t.draft, t.id, t.named, hsaved, hnamed, ?_, ?_, ?_⟩
  · obtain ⟨hid, hok⟩ := ha.result_of_report hs hsaved
    cases hp : c.publish with
    | strict =>
      obtain ⟨id, rfl⟩ := (hc s hs hcut).2 hp
      cases hid
      rfl
    | bestEffort attempts backoff => exact hok (by rw [hp]; exact nofun)
  · rw [ne_eq, List.drop_eq_nil_iff, Nat.not_le]
    exact hsettled.cancelled.mp hcut
  · rintro u hu x hx rfl
    have htake : x.follower ∈ t.followers.take s.dispatched := by
      rw [← hsettled.each]
      exact List.mem_map_of_mem (hwrites ▸ hx)
    exact List.disjoint_take_drop (nodup_distinct _) (Nat.le_refl _) htake hu

/-- A post to one follower, announced in the background, whose author cancels before the follower
is dispatched. -/
theorem watched_cut :
    let c : Config := ⟨50, 100, 2000, 1000, .invalidate, .bestEffort 3 200, ⟨50, 100⟩⟩
    ∃ ts, Watched c ⟨"alice"⟩ "hello" ts true ⟨⟨"alice"⟩, "hello", .finished (.ok ⟨.ofNat 1⟩)⟩ ∧
      (log c ⟨"alice"⟩ "hello" ts).report = some ⟨0, [], 0, true⟩ := by
  intro c
  let w : World := ⟨.empty, .create .standard⟩
  obtain ⟨ts, -, resolved, -⟩ := watched_resolved c w.cache [⟨"bob"⟩]
  have cut := resolved.cancel.own (.spread .stop) w rfl rfl rfl
  have asked := cut.own (.spread (.ask 0)) w rfl rfl rfl
  have left := asked.own (.spread .leave) w rfl rfl rfl
  have named := left.own (.named (.ofNat 2)) w rfl rfl rfl
  refine ⟨_, named, ?_⟩
  simp only [log, List.foldl_append, List.foldl_cons, List.foldl_nil]
  rfl

/-- Cut off before the only follower, and still a success. -/
theorem result_of_cut_in_background :
    let c : Config := ⟨50, 100, 2000, 1000, .invalidate, .bestEffort 3 200, ⟨50, 100⟩⟩
    ∃ ts call draft id named, Watched c ⟨"alice"⟩ "hello" ts true call ∧
      call.result? = some (.ok ⟨.ofNat 1⟩) ∧
      (log c ⟨"alice"⟩ "hello" ts).saved = [(draft, id)] ∧
      (log c ⟨"alice"⟩ "hello" ts).named = some named ∧ distinct named ≠ [] ∧
      ∀ u ∈ distinct named, ∀ x ∈ (log c ⟨"alice"⟩ "hello" ts).writes, x.follower ≠ u := by
  intro c
  obtain ⟨ts, h, hs⟩ := watched_cut
  obtain ⟨draft, id, named, hsaved, hnamed, -, hsome, hleft⟩ :=
    result_of_cut (by decide) h rfl hs rfl
  exact ⟨ts, _, draft, id, named, h, rfl, hsaved, hnamed, hsome, hleft⟩

/-- It is not so that a call whose fan-out was cut off always fails. -/
theorem cut_not_always_failure :
    ¬∀ (c : Config) (author : UserId) (content : String) (ts : List Turn) (cancelled : Bool)
      (call : Create) (r : Except Failure PostId) (s : Spread), 0 < c.bounds.workers →
      Watched c author content ts cancelled call → call.result? = some r →
      (log c author content ts).report = some s → s.cancelled →
      ∃ id, r = .error (.cancelled (some id)) := by
  intro hall
  obtain ⟨ts, h, hs⟩ := watched_cut
  obtain ⟨id, hid⟩ := hall _ _ _ ts true _ _ _ (by decide) h rfl hs rfl
  cases hid

end Timelines.Service.Create
