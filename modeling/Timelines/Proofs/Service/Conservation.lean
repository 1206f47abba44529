import Timelines.Proofs.Service.Writes
import Timelines.Service.Create

/-! A fan-out loses no follower and reaches none twice.

`conserves_followers` says what the report of a fan-out tells when all its workers have left, and
that until then a write is under way or the dispatcher or a worker can go on. -/
namespace Timelines.Service.Fanout

/-! ### How it ends -/

/-- Workers leave only when nothing is left to do, and the caller can only cut off what is there. -/
structure Closing (f : Fanout) : Prop where
  leaving : f.left ≠ [] → f.closed ∧ f.queue = []
  cut : f.cut → f.rest ≠ []

theorem closing_of_step {f f' : Fanout} {m : Move} (h : Closing f) (hs : Course f m f') :
    Closing f' := by
  cases hs with
  | @dispatch u rest hr hc hq =>
    refine ⟨fun hl => ?_, fun hcut => ?_⟩
    · have := (h.leaving hl).1
      simp [closed, hc, hr] at this
    · exact absurd hcut (by simp [hc])
  | stop hc =>
    refine ⟨fun hl => ?_, fun _ hr => ?_⟩
    · exact absurd (h.leaving hl).1 (by simp [hc])
    · simp [closed, show f.rest = [] from hr] at hc
  | ask hw ha => exact ⟨h.leaving, h.cut⟩
  | take hl hq hw =>
    refine ⟨fun hleft => ?_, h.cut⟩
    have := (h.leaving hleft).2
    rw [hq] at this
    cases this
  | wrote hw ha => exact ⟨h.leaving, h.cut⟩
  | notWritten e hw ha => exact ⟨h.leaving, h.cut⟩
  | leave hl hc hq hw => exact ⟨fun _ => ⟨hc, hq⟩, h.cut⟩

/-- All that is known of a fan-out and the writes it has asked for. -/
structure Sound (bounds : Bounds) (post : Post) (followers : List UserId) (ws : List Write)
    (f : Fanout) : Prop where
  placed : Placed f
  accounted : Accounted followers ws f
  closing : Closing f
  post : f.post = post
  capacity : f.capacity = bounds.queue
  crew : f.workers.length = min bounds.workers followers.length

variable {bounds : Bounds} {post : Post} {followers : List UserId} {ws : List Write} {f : Fanout}

theorem sound_of_history (h : History bounds post followers ws f) :
    Sound bounds post followers ws f := by
  induction h with
  | start =>
    exact ⟨placed_start .., accounted_start .., ⟨fun h => absurd rfl h, nofun⟩, rfl, rfl,
      List.length_replicate⟩
  | move _ hs ih =>
    have hc := course_of_step hs
    refine ⟨placed_of_step ih.placed hc, accounted_of_step ih.placed ih.accounted hc,
      closing_of_step ih.closing hc, (post_of_step hs).trans ih.post, ?_, ?_⟩
    · cases hc <;> exact ih.capacity
    · cases hc <;> simpa only [List.length_set] using ih.crew

/-- What the dispatcher and the workers do by themselves. -/
def proceeds : Move → Bool
  | .dispatch | .ask _ | .take | .leave => true
  | .stop | .wrote _ _ => false

/-- As long as not all workers have left, some worker is still there. -/
theorem Sound.exists_worker (h : Sound bounds post followers ws f) (hf : f.finished = false) :
    ∃ (n : Nat) (w : Worker), f.workers[n]? = some w ∧ w.activity ≠ .gone := by
  have hlen : f.left.length ≠ f.workers.length := ne_of_beq_false hf
  apply Classical.byContradiction
  intro hn
  have hall (n : Nat) (hlt : n < f.workers.length) : n ∈ f.left := by
    have hw := List.getElem?_eq_getElem hlt
    rw [h.placed.mem_left, activity?_eq hw]
    exact congrArg some (Classical.not_not.mp fun hg => hn ⟨n, _, hw, hg⟩)
  have hle : f.workers.length ≤ f.left.length := by
    have hsub := List.subperm_of_subset List.nodup_range fun n hm => hall n (List.mem_range.mp hm)
    simpa using hsub.length_le
  have hge : f.left.length ≤ f.workers.length := by
    have hsub := List.subperm_of_subset h.placed.left_nodup fun n hm => by
      obtain ⟨w, hw, -⟩ := Option.map_eq_some_iff.mp ((h.placed.mem_left n).mp hm)
      exact List.mem_range.mpr (List.getElem?_eq_some_iff.mp hw).1
    simpa using hsub.length_le
  exact hlen (Nat.le_antisymm hge hle)

/-- The first in line can go on, or the dispatcher can. -/
theorem Sound.line_goes_on (h : Sound bounds post followers ws f) (hq : 0 < bounds.queue) {n : Nat}
    (hn : n ∈ f.line) : ∃ m, proceeds m ∧ (f.step? m).isSome := by
  obtain ⟨first, line, hl⟩ := List.exists_cons_of_ne_nil (List.ne_nil_of_mem hn)
  obtain ⟨w, hw, -⟩ := Option.map_eq_some_iff.mp
    ((h.placed.mem_line first).mp (hl ▸ List.mem_cons_self ..))
  cases hqueue : f.queue with
  | cons u queue =>
    refine ⟨.take, rfl, ?_⟩
    rw [step_of_course (.take hl hqueue hw)]
    rfl
  | nil =>
    cases hc : f.closed with
    | true =>
      refine ⟨.leave, rfl, ?_⟩
      rw [step_of_course (.leave hl hc hqueue hw)]
      rfl
    | false =>
      obtain ⟨hcut, hrest⟩ : f.cut = false ∧ f.rest ≠ [] := by simpa [closed] using hc
      obtain ⟨u, rest, hr⟩ := List.exists_cons_of_ne_nil hrest
      have hroom : f.queue.length < f.capacity := by
        rw [hqueue, h.capacity]
        exact hq
      refine ⟨.dispatch, rfl, ?_⟩
      rw [step_of_course (.dispatch hr hcut hroom)]
      rfl

theorem Sound.goes_on (h : Sound bounds post followers ws f) (hq : 0 < bounds.queue)
    (hf : f.finished = false) :
    (∃ w ∈ f.workers, ∃ u, w.activity = .writing u) ∨ ∃ m, proceeds m ∧ (f.step? m).isSome := by
  obtain ⟨n, w, hw, hg⟩ := h.exists_worker hf
  cases ha : w.activity with
  | away =>
    refine .inr ⟨.ask n, rfl, ?_⟩
    rw [step_of_course (.ask hw ha)]
    rfl
  | inLine =>
    have hn : n ∈ f.line := (h.placed.mem_line n).mpr (by rw [activity?_eq hw, ha])
    exact .inr (h.line_goes_on hq hn)
  | writing u => exact .inl ⟨w, List.mem_of_getElem? hw, u, ha⟩
  | gone => exact absurd ha hg

/-- The requests under way are those to write the post that have no answer yet. -/
theorem Sound.requested (h : Sound bounds post followers ws f) (n : Nat) (u : UserId) :
    (Create.writing? f n).map (·.request) = some (.write u post) ↔
      ∃ x ∈ ws, x.worker = n ∧ x.follower = u ∧ x.reply = none := by
  have hmem : (∃ x ∈ ws, x.worker = n ∧ x.follower = u ∧ x.reply = none) ↔
      u ∈ writing n ws := by
    simp only [writing, List.mem_map, List.mem_filter, Write.pending, Bool.and_eq_true, beq_iff_eq,
      Option.isNone_iff_eq_none]
    exact exists_congr fun x => by tauto
  rw [hmem, h.accounted.writing, activity?, Create.writing?]
  cases hw : f.workers[n]? with
  | none => simp [underWay]
  | some w =>
    obtain ⟨activity, delivered, failed⟩ := w
    cases activity with
    | writing v => simp [underWay, h.post, eq_comm]
    | _ => simp [underWay]

/-- Whoever was reached had been dispatched. -/
theorem Sound.mem_take_of_delivered (h : Sound bounds post followers ws f) {u : UserId}
    (hu : u ∈ f.workers.flatMap (·.delivered)) : u ∈ followers.take f.dispatched := by
  have hreached : u ∈ reached ws := h.accounted.reached.mem_iff.mp hu
  obtain ⟨x, hx, rfl⟩ := List.mem_map.mp hreached
  have hmem : x.follower ∈ ws.map (·.follower) ++ f.queue :=
    List.mem_append_left _ (List.mem_map_of_mem (List.mem_filter.mp hx).1)
  have hlen : (ws.map (·.follower) ++ f.queue).length = f.dispatched := by
    rw [h.accounted.dispatched, List.length_append, List.length_map]
  rwa [← h.accounted.kept, ← hlen, List.take_left]

/-- When all have left, nothing is queued, and what is not dispatched was cut off. -/
theorem Sound.at_end (h : Sound bounds post followers ws f) (hw : 0 < bounds.workers)
    (hf : f.finished) : f.queue = [] ∧ (f.cut ↔ f.rest ≠ []) := by
  have hlen : f.left.length = f.workers.length := beq_iff_eq.mp hf
  have hcrew := h.crew
  by_cases hl : f.left = []
  · -- Only a fan-out without followers has no workers.
    have hnone : followers = [] := by
      rw [← hlen, hl, List.length_nil] at hcrew
      apply List.eq_nil_of_length_eq_zero
      omega
    have hkept := h.accounted.kept
    rw [hnone, List.append_eq_nil_iff, List.append_eq_nil_iff] at hkept
    exact ⟨hkept.1.2, h.closing.cut, fun hr => absurd hkept.2 hr⟩
  · obtain ⟨hclosed, hqueue⟩ := h.closing.leaving hl
    refine ⟨hqueue, h.closing.cut, fun hr => ?_⟩
    simpa [closed, hr] using hclosed

/-- What a fan-out reports, against the writes it asked for. -/
structure Settled (followers : List UserId) (ws : List Write) (s : Spread) : Prop where
  /-- Each follower up to the last dispatched one was written to once, in order. -/
  each : ws.map (·.follower) = followers.take s.dispatched
  answered : ∀ x ∈ ws, x.reply.isSome
  delivered : s.delivered.Perm (reached ws)
  failed : s.failed = (missed ws).length
  dispatched : s.dispatched = s.delivered.length + s.failed
  cancelled : s.cancelled ↔ s.dispatched < followers.length

/-- Writes that all have an answer are those that succeeded and those that failed. -/
theorem length_reached_missed (h : ∀ x ∈ ws, x.reply.isSome) :
    ws.length = (reached ws).length + (missed ws).length := by
  unfold reached missed answered
  rw [List.length_map, List.length_map, ← List.countP_eq_length_filter,
    ← List.countP_eq_length_filter, List.length_eq_countP_add_countP fun x => x.reply.any (·.isOk)]
  congr 1
  refine List.countP_congr fun x hx => ?_
  obtain ⟨reply, hr⟩ := Option.isSome_iff_exists.mp (h x hx)
  simp [hr]

/-- When all have left, no write is under way. -/
theorem answered_of_finished (h : Sound bounds post followers ws f) (hf : f.finished) :
    ∀ x ∈ ws, x.reply.isSome := by
  intro x hx
  rw [Option.isSome_iff_ne_none]
  intro hnone
  have hmem : x.follower ∈ writing x.worker ws :=
    List.mem_map_of_mem (List.mem_filter.mpr ⟨hx, by simp [Write.pending, hnone]⟩)
  rw [h.accounted.writing] at hmem
  by_cases hlt : x.worker < f.workers.length
  · have hleft : x.worker ∈ f.left := (left_perm h.placed hf).mem_iff.mpr (List.mem_range.mpr hlt)
    rw [(h.placed.mem_left _).mp hleft] at hmem
    cases hmem
  · rw [activity?, List.getElem?_eq_none (Nat.le_of_not_lt hlt)] at hmem
    cases hmem

theorem Sound.settled (h : Sound bounds post followers ws f) (hw : 0 < bounds.workers)
    (hf : f.finished) : Settled followers ws f.spread := by
  obtain ⟨hqueue, hcut⟩ := h.at_end hw hf
  have hcount : f.dispatched = ws.length := by
    rw [h.accounted.dispatched, hqueue]
    rfl
  have hkept : ws.map (·.follower) ++ f.rest = followers := by
    have := h.accounted.kept
    rwa [hqueue, List.append_nil] at this
  have hanswered := answered_of_finished h hf
  obtain ⟨hd, hfail⟩ := spread_of_finished h.placed hf
  have hdelivered := hd.trans h.accounted.reached
  have hfailed := hfail.trans h.accounted.missed
  refine ⟨?_, hanswered, hdelivered, hfailed, ?_, ?_⟩
  · show _ = followers.take f.dispatched
    rw [← hkept, hcount, List.take_left' (List.length_map _)]
  · show f.dispatched = _
    rw [hcount, length_reached_missed hanswered, hdelivered.length_eq, hfailed]
  · show f.cut = true ↔ f.dispatched < followers.length
    rw [hcut, ← hkept, hcount, List.length_append, List.length_map, ← List.length_pos_iff]
    omega

/-- **A fan-out conserves followers.** However the dispatcher and the workers take turns, however
long the writes take and however they end, and whenever the caller cancels: when all workers have
left, each follower that was dispatched was written to once, the report counts those writes and how
they ended, and it says that it was cut off if and only if a follower was not dispatched. Until then
a write is under way, or the dispatcher or a worker can go on. The requests under way are at all
times the writes without an answer. -/
theorem conserves_followers (hw : 0 < bounds.workers) (hq : 0 < bounds.queue)
    (h : History bounds post followers ws f) :
    (f.finished → Settled followers ws f.spread) ∧
      (f.finished = false → (∃ w ∈ f.workers, ∃ u, w.activity = .writing u) ∨
        ∃ m, proceeds m ∧ (f.step? m).isSome) ∧
      ∀ n u, (Create.writing? f n).map (·.request) = some (.write u post) ↔
        ∃ x ∈ ws, x.worker = n ∧ x.follower = u ∧ x.reply = none := by
  have hs := sound_of_history h
  exact ⟨hs.settled hw, hs.goes_on hq, hs.requested⟩

/-- Cut off after the first of two followers. -/
theorem conserves_followers_of_cut :
    ∃ ws f, History ⟨1, 1⟩ default [⟨"bob"⟩, ⟨"carol"⟩] ws f ∧ f.finished = true ∧
      f.spread = ⟨1, [⟨"bob"⟩], 0, true⟩ ∧ Settled [⟨"bob"⟩, ⟨"carol"⟩] ws f.spread := by
  have started : History ⟨1, 1⟩ default [⟨"bob"⟩, ⟨"carol"⟩] _ _ := .start
  have dispatched := History.move (m := .dispatch) started rfl
  have cut := History.move (m := .stop) dispatched rfl
  have asked := History.move (m := .ask 0) cut rfl
  have taken := History.move (m := .take) asked rfl
  have wrote := History.move (m := .wrote 0 (.ok ())) taken rfl
  have again := History.move (m := .ask 0) wrote rfl
  have left := History.move (m := .leave) again rfl
  exact ⟨_, _, left, rfl, rfl, (conserves_followers (by decide) (by decide) left).1 rfl⟩

end Timelines.Service.Fanout
