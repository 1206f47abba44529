import Timelines.Proofs.Service.Delivery
import Timelines.Proofs.Service.Verdict

/-! A call whose caller never cancels comes to an end.

It makes no more moves than eight for each follower and six besides (`length_le_of_watched`), and
goes on until it has a result or breaks (`goes_on`): a request of its own is under way that may be
answered in any way, or it has a move to make by itself. -/
namespace Timelines.Service

/-- The moves left to a worker that finds no more followers. -/
def Worker.movesLeft (w : Worker) : Nat :=
  match w.activity with
  | .writing _ => 3
  | .away => 2
  | .inLine => 1
  | .gone => 0

namespace Fanout

/-- The moves left to a fan-out that is not cut off. -/
def movesLeft (f : Fanout) : Nat :=
  4 * f.rest.length + 3 * f.queue.length + (f.workers.map Worker.movesLeft).sum

theorem sum_movesLeft_set {workers : List Worker} {n : Nat} {w : Worker}
    (hw : workers[n]? = some w) (w' : Worker) :
    ((workers.set n w').map Worker.movesLeft).sum + w.movesLeft =
      (workers.map Worker.movesLeft).sum + w'.movesLeft := by
  induction workers generalizing n with
  | nil => cases hw
  | cons v workers ih =>
    cases n with
    | zero =>
      cases hw
      simp only [List.set_cons_zero, List.map_cons, List.sum_cons]
      omega
    | succ n =>
      have := ih hw
      simp only [List.set_cons_succ, List.map_cons, List.sum_cons]
      omega

theorem movesLeft_start (bounds : Bounds) (post : Post) (followers : List UserId) :
    (start bounds post followers).movesLeft ≤ 6 * followers.length := by
  unfold movesLeft start
  rw [List.map_replicate, List.sum_replicate_nat]
  simp only [Worker.movesLeft, List.length_nil]
  omega

theorem movesLeft_of_mem_line {f : Fanout} (hp : Placed f) {n : Nat} {w : Worker}
    (hw : f.workers[n]? = some w) (hn : n ∈ f.line) : w.movesLeft = 1 := by
  have ha := (hp.mem_line n).mp hn
  rw [activity?_eq hw] at ha
  unfold Worker.movesLeft
  rw [Option.some.inj ha]

/-- Each move but the caller's is one less. -/
theorem movesLeft_of_step {f f' : Fanout} {m : Move} (hp : Placed f) (h : Course f m f')
    (hm : m ≠ .stop) : f'.movesLeft + 1 = f.movesLeft := by
  unfold movesLeft
  cases h with
  | dispatch hr hc hq =>
    simp only [hr, List.length_append, List.length_cons, List.length_nil]
    omega
  | stop hc => exact absurd rfl hm
  | @ask n w hw ha =>
    have hset := sum_movesLeft_set hw { w with activity := .inLine }
    simp only [Worker.movesLeft, ha] at hset
    dsimp only
    omega
  | @take n line u queue w hl hq hw =>
    have hset := sum_movesLeft_set hw { w with activity := .writing u }
    rw [movesLeft_of_mem_line hp hw (hl ▸ List.mem_cons_self ..)] at hset
    simp only [Worker.movesLeft] at hset
    rw [hq, List.length_cons]
    dsimp only
    omega
  | @wrote n w u hw ha =>
    have hset := sum_movesLeft_set hw
      { w with activity := .away, delivered := w.delivered ++ [u] }
    simp only [Worker.movesLeft, ha] at hset
    dsimp only
    omega
  | @notWritten n w u e hw ha =>
    have hset := sum_movesLeft_set hw { w with activity := .away, failed := w.failed + 1 }
    simp only [Worker.movesLeft, ha] at hset
    dsimp only
    omega
  | @leave n line w hl hc hq hw =>
    have hset := sum_movesLeft_set hw { w with activity := .gone }
    rw [movesLeft_of_mem_line hp hw (hl ▸ List.mem_cons_self ..)] at hset
    simp only [Worker.movesLeft] at hset
    dsimp only
    omega

end Fanout

/-- The moves left to a call that is never cancelled, once its followers are known. -/
def CreateStage.movesLeft : CreateStage → Nat
  | .lookingUp => 6
  | .dating => 5
  | .recording _ => 4
  | .resolving _ => 3
  | .spreading followers f => f.movesLeft + 2 * followers.length + 2
  | .maintaining _ _ _ waiting running => 2 * waiting.length + running.length + 2
  | .naming .. => 2
  | .announcing .. => 1
  | .finished _ | .broken => 0

theorem CreateStage.movesLeft_spreading (followers : List UserId) (f : Fanout) :
    (CreateStage.spreading followers f).movesLeft = f.movesLeft + 2 * followers.length + 2 := rfl

theorem CreateStage.movesLeft_maintaining (post : Post) (n : Nat) (s : Spread)
    (waiting running : List UserId) :
    (CreateStage.maintaining post n s waiting running).movesLeft =
      2 * waiting.length + running.length + 2 := rfl

namespace Create

/-- How many followers the graph named. -/
def Heard.named (a : Heard) : Nat :=
  match a.followers with
  | some (.ok named) => named.length
  | _ => 0

variable {c : Config} {author : UserId} {content : String} {a : Heard}

theorem length_distinct_le (users : List UserId) : (distinct users).length ≤ users.length :=
  (List.subperm_of_subset (nodup_distinct users) fun _ hu => mem_distinct.mp hu).length_le

theorem length_targets_le {followers : List UserId} {ws : List Fanout.Write} {s : Spread}
    (h : Fanout.Settled followers ws s) : (targets c followers s).length ≤ followers.length := by
  unfold targets
  split
  · exact List.length_take_le' ..
  · rw [h.delivered.length_eq]
    exact h.reached_sublist.length_le

theorem movesLeft_afterSpread (c : Config) (post : Post) {followers : List UserId}
    {ws : List Fanout.Write} {s : Spread} (h : Fanout.Settled followers ws s) :
    (afterSpread c post followers s).movesLeft ≤ 2 * followers.length + 2 := by
  have hle := length_targets_le (c := c) h
  unfold afterSpread
  split
  · simp only [CreateStage.movesLeft]
    omega
  · simp only [CreateStage.movesLeft, List.length_nil]
    omega

theorem movesLeft_afterResolving (post : Post) (followers : List UserId) :
    (afterResolving c post followers).movesLeft ≤ 8 * followers.length + 2 := by
  unfold afterResolving
  split
  · exact Nat.le_refl _
  · split
    · exact Nat.zero_le _
    · have := Fanout.movesLeft_start c.bounds post followers
      simp only [CreateStage.movesLeft]
      omega

theorem movesLeft_upkeepStage (post : Post) (n : Nat) (s : Spread) (waiting running : List UserId) :
    (upkeepStage post n s waiting running).movesLeft ≤ 2 * waiting.length + running.length + 2 := by
  unfold upkeepStage
  split <;> exact Nat.le_refl _

theorem movesLeft_upkept {post : Post} {n : Nat} {s : Spread} (waiting : List UserId)
    {running : List UserId} {u : UserId} (hu : u ∈ running) :
    (upkeepStage post n s waiting (running.erase u)).movesLeft + 1 ≤
      (CreateStage.maintaining post n s waiting running).movesLeft := by
  have hle := movesLeft_upkeepStage post n s waiting (running.erase u)
  have hlen := List.length_erase_add_one hu
  rw [CreateStage.movesLeft_maintaining]
  omega

variable {l : Log} {before after : CreateStage} {m : Move} {w w' : World} {post : Post}

theorem movesLeft_spreadStage (hw : 0 < c.bounds.workers) {followers : List UserId} {post : Post}
    {ws : List Fanout.Write} {f f' : Fanout} {move : Fanout.Move}
    (hh : Fanout.History c.bounds post followers ws f) (hf : f.step? move = some f')
    (hmove : move ≠ .stop) :
    (spreadStage c followers f').movesLeft + 1 ≤ (CreateStage.spreading followers f).movesLeft := by
  have hstep := Fanout.movesLeft_of_step (Fanout.sound_of_history hh).placed
    (Fanout.course_of_step hf) hmove
  unfold spreadStage
  split
  next hfinished =>
    have hsettled := (Fanout.sound_of_history (.move hh hf)).settled hw hfinished
    have := movesLeft_afterSpread c f'.post hsettled
    rw [CreateStage.movesLeft_spreading]
    omega
  next =>
    rw [CreateStage.movesLeft_spreading, CreateStage.movesLeft_spreading]
    omega

theorem movesLeft_answered (h : Stands c author content a (.resolving post))
    (reply : Except GraphError (List UserId)) :
    (afterResolving c post (distinct (reply.toOption.getD []))).movesLeft + 1 + 8 * a.named ≤
      3 + 8 * (a.turn (.resolved reply)).named := by
  have hnone : a.named = 0 := by rw [Heard.named, h.2]
  have hle := length_distinct_le (reply.toOption.getD [])
  have hafter := movesLeft_afterResolving (c := c) post (distinct (reply.toOption.getD []))
  have hnamed : (a.turn (.resolved reply)).named = (reply.toOption.getD []).length := by
    cases reply <;> rfl
  omega

/-- Every move is one less, but for the followers that it makes known. -/
theorem movesLeft_of_course (hw : 0 < c.bounds.workers) (ha : Account c author content l before)
    (hs : Stands c author content a before) (hh : heeds ⟨author, content, before⟩ false m)
    (hc : Course c author content w before m after w') :
    after.movesLeft + 1 + 8 * a.named ≤ before.movesLeft + 8 * (a.turn m).named := by
  cases hc with
  | resolved post followers => exact movesLeft_answered hs (.ok followers)
  | notResolved post e => exact movesLeft_answered hs (.error e)
  | @spread followers f f' move hf hmove =>
    cases ha with
    | spreading hd hist =>
      refine Nat.add_le_add_right (movesLeft_spreadStage hw hist hf ?_) _
      rintro rfl
      cases hh
  | wrote followers hact hu hf =>
    cases ha with
    | spreading hd hist => exact Nat.add_le_add_right (movesLeft_spreadStage hw hist hf nofun) _
  | notWritten followers hf =>
    cases ha with
    | spreading hd hist => exact Nat.add_le_add_right (movesLeft_spreadStage hw hist hf nofun) _
  | maintain post n s u waiting running hlt =>
    refine Nat.add_le_add_right ?_ _
    rw [CreateStage.movesLeft_maintaining, CreateStage.movesLeft_maintaining]
    simp only [List.length_append, List.length_cons, List.length_nil]
    omega
  | maintained post n s waiting now hu | notMaintained post n s waiting e hu =>
    exact Nat.add_le_add_right (movesLeft_upkept waiting hu) _
  | cancelledLookingUp | cancelledRecording | cancelledAnnouncing => cases hh
  | _ => simp [CreateStage.movesLeft, Heard.named, Heard.turn]

variable {ts : List Turn} {call : Create}

/-- The moves of a call and those left to it, against the followers. -/
theorem length_le_of_watched (hw : 0 < c.bounds.workers)
    (h : Watched c author content ts false call) :
    ts.length + call.stage.movesLeft ≤ 6 + 8 * (heard ts).named := by
  refine h.induction_uncancelled
    (P := fun ts call => ts.length + call.stage.movesLeft ≤ 6 + 8 * (heard ts).named)
    (Nat.le_refl 6) fun hr ih hh hs => ?_
  obtain ⟨hcall, hc⟩ := course_of_run hr.run hs
  rw [hcall] at hh
  have hstep := movesLeft_of_course hw (account_of_run hw hr.run) (stands_of_watched hr) hh hc
  rw [heard_snoc, List.length_append, List.length_singleton]
  dsimp only
  omega

/-! ### Going on -/

/-- A request of the call may be answered in any way, or the call can go on by itself. -/
def GoesOn (c : Config) (call : Create) : Prop :=
  (∃ q ∈ call.questions c, ∀ reply,
    call.heeds false (q.answered reply) ∧ (call.step? c (q.answered reply)).isSome) ∨
  ∃ m : Move, m.own ∧ call.heeds false m ∧ (call.step? c m).isSome

/-- A fan-out has workers left, and an upkeep followers. -/
def Busy : CreateStage → Prop
  | .spreading _ f => f.finished = false
  | .maintaining _ _ _ waiting running => waiting ≠ [] ∨ running ≠ []
  | _ => True

theorem busy_afterResolving (hw : 0 < c.bounds.workers) (post : Post) (followers : List UserId) :
    Busy (afterResolving c post followers) := by
  unfold afterResolving
  split
  next => trivial
  next hsome =>
    split
    next => trivial
    next =>
      have hpos := List.length_pos_iff.mpr hsome
      refine beq_false_of_ne fun hlen => ?_
      rw [Fanout.start, List.length_replicate, List.length_nil] at hlen
      omega

theorem busy_spreadStage (followers : List UserId) (f : Fanout) :
    Busy (spreadStage c followers f) := by
  unfold spreadStage
  split
  next =>
    unfold afterSpread
    split
    next => trivial
    next hsome => exact .inl hsome
  next hf => exact Bool.eq_false_iff.mpr hf

theorem busy_upkeepStage (post : Post) (n : Nat) (s : Spread) (waiting running : List UserId) :
    Busy (upkeepStage post n s waiting running) := by
  unfold upkeepStage
  split
  next => trivial
  next hsome =>
    by_cases hwaiting : waiting = []
    · exact .inr fun hrunning => hsome hwaiting hrunning
    · exact .inl hwaiting

theorem busy_of_course (hw : 0 < c.bounds.workers)
    (hc : Course c author content w before m after w') : Busy after := by
  cases hc with
  | resolved post followers => exact busy_afterResolving hw ..
  | notResolved post e => exact busy_afterResolving hw ..
  | spread followers | wrote followers | notWritten followers => exact busy_spreadStage ..
  | maintain post n s u waiting running => exact .inr (by simp)
  | maintained | notMaintained => exact busy_upkeepStage ..
  | _ => trivial

theorem busy_of_run (hw : 0 < c.bounds.workers) (h : Run c author content ts call) :
    Busy call.stage := by
  cases h with
  | start => trivial
  | turn hr hs => exact busy_of_course hw (course_of_run hr hs).2

/-- A worker or the dispatcher goes on, or a write may be answered. -/
theorem spreading_goes_on (hq : 0 < c.bounds.queue) {followers named : List UserId}
    {ws : List Fanout.Write} {f : Fanout} (hh : Fanout.History c.bounds post named ws f)
    (hf : f.finished = false) :
    GoesOn c ⟨author, content, .spreading followers f⟩ := by
  have made {move : Fanout.Move} (h : (f.step? move).isSome) :
      (step? c ⟨author, content, .spreading followers f⟩ (.spread move)).isSome := by
    simp [step?, next?, h]
  rcases (Fanout.sound_of_history hh).goes_on hq hf with ⟨v, hv, u, ha⟩ | ⟨move, hmove, hs⟩
  · obtain ⟨n, hn⟩ := List.mem_iff_getElem?.mp hv
    obtain ⟨hlt, -⟩ := List.getElem?_eq_some_iff.mp hn
    obtain ⟨activity, delivered, failed⟩ := v
    cases ha
    refine .inl ⟨⟨.write u f.post, fun reply => .spread (.wrote n reply)⟩, ?_, fun reply => ?_⟩
    · refine List.mem_filterMap.mpr ⟨n, List.mem_range.mpr hlt, ?_⟩
      simp only [writing?, hn]
    · refine ⟨rfl, made ?_⟩
      cases reply with
      | ok done =>
        rw [Fanout.step_of_course (.wrote hn rfl)]
        rfl
      | error e =>
        rw [Fanout.step_of_course (.notWritten e hn rfl)]
        rfl
  · refine .inr ⟨.spread move, ?_, ?_, made hs⟩
    · cases move <;> first | rfl | cases hmove
    · cases move <;> first | rfl | cases hmove

/-- A follower is taken up, or the upkeep of one may be answered. -/
theorem maintaining_goes_on (hw : 0 < c.bounds.workers) {n : Nat} {s : Spread}
    {waiting running : List UserId} (h : Busy (.maintaining post n s waiting running)) :
    GoesOn c ⟨author, content, .maintaining post n s waiting running⟩ := by
  cases running with
  | nil =>
    cases waiting with
    | nil => exact absurd h (by simp [Busy])
    | cons u waiting =>
      refine .inr ⟨.maintain, rfl, rfl, ?_⟩
      simp [step?, next?, Nat.not_le.mpr hw]
  | cons u running =>
    refine .inl ⟨upkeep c post u, List.mem_map_of_mem (List.mem_cons_self ..), fun reply => ?_⟩
    obtain ⟨reply', ha⟩ := answered_upkeep_eq c post u reply
    rw [ha]
    refine ⟨rfl, ?_⟩
    rw [step?, next?_maintained rfl (List.mem_cons_self ..)]
    rfl

/-- A call goes on until it has a result or breaks. -/
theorem goes_on (hw : 0 < c.bounds.workers) (hq : 0 < c.bounds.queue)
    (h : Watched c author content ts false call) (hr : call.result? = none)
    (hb : call.stage ≠ .broken) : call.GoesOn c := by
  have ha := account_of_run hw h.run
  have hbusy := busy_of_run hw h.run
  generalize log c author content ts = l at ha
  obtain ⟨author', content', stage⟩ := call
  cases stage with
  | lookingUp =>
    refine .inl ⟨_, List.mem_cons_self .., fun reply => ⟨rfl, ?_⟩⟩
    match reply with
    | .ok true | .ok false | .error _ => rfl
  | dating => exact .inr ⟨.dated none, rfl, rfl, rfl⟩
  | recording draft | resolving post | announcing post n s event =>
    refine .inl ⟨_, List.mem_cons_self .., fun reply => ⟨rfl, ?_⟩⟩
    cases reply <;> rfl
  | spreading followers f =>
    cases ha with
    | spreading hd hh => exact spreading_goes_on hq hh hbusy
  | maintaining post n s waiting running => exact maintaining_goes_on hw hbusy
  | naming post n s =>
    refine .inr ⟨.named default, rfl, rfl, ?_⟩
    simp only [step?, next?]
    cases c.publish <;> rfl
  | finished r => cases hr
  | broken => exact absurd rfl hb

end Create
end Timelines.Service
