import Timelines.Proofs.Service.Cancelling

/-! A recorded post becomes one row in the timeline of each follower that was reached.

The rows are followed turn by turn (`Rows`): a turn leaves the timelines as they are, or it ends a
write and puts the post behind the rows of one owner, who had not got it before. With what a fan-out
reports of its writes, `one_row_per_follower` tells from the report who has got the post when the
call has ended. -/
namespace Timelines.Service
open Store (Memory)

/-! ### Whom the writes have reached -/

namespace Fanout
variable {bounds : Bounds} {post : Post} {followers : List UserId} {ws : List Write} {f f' : Fanout}
  {m : Move}

theorem mem_reached {u : UserId} :
    u ∈ reached ws ↔ ∃ x ∈ ws, x.follower = u ∧ x.reply = some (.ok ()) := by
  have hok (reply : Option (Except StoreError Unit)) :
      reply.any (·.isOk) ↔ reply = some (.ok ()) := by
    rcases reply with _ | _ | _ <;> simp [Except.isOk, Except.toBool]
  simp only [reached, answered, List.mem_map, List.mem_filter, hok]
  exact exists_congr fun x => by tauto

/-- No follower is written to twice. -/
theorem Sound.nodup_written (h : Sound bounds post followers ws f) (hn : followers.Nodup) :
    (ws.map (·.follower)).Nodup := by
  rw [← h.accounted.kept] at hn
  exact hn.of_append_left.of_append_left

/-- A move reaches the follower whose write it ends, and nobody else. -/
theorem mem_reached_of_step (h : Sound bounds post followers ws f) (hs : f.step? m = some f')
    (h' : Sound bounds post followers (f.noted ws m) f') (u : UserId) :
    u ∈ reached (f.noted ws m) ↔ u ∈ reached ws ∨
      ∃ n, m = .wrote n (.ok ()) ∧ activity? f.workers n = some (.writing u) := by
  rw [← h.accounted.reached.mem_iff, ← h'.accounted.reached.mem_iff]
  exact mem_delivered_of_step (course_of_step hs) u

/-- Whoever is written to has not been reached yet. -/
theorem not_mem_reached_of_writing (h : Sound bounds post followers ws f) (hn : followers.Nodup)
    {n : Nat} {u : UserId} (ha : activity? f.workers n = some (.writing u)) : u ∉ reached ws := by
  intro hu
  obtain ⟨x, hx, hxu, hxreply⟩ := mem_reached.mp hu
  have hwriting : u ∈ writing n ws := by
    rw [h.accounted.writing, ha]
    exact List.mem_singleton_self u
  obtain ⟨y, hy, hyu⟩ := List.mem_map.mp hwriting
  obtain ⟨hy, hpending⟩ := List.mem_filter.mp hy
  have hxy : x = y := List.inj_on_of_nodup_map (h.nodup_written hn) hx hy (hxu.trans hyu.symm)
  simp [Write.pending, ← hxy, hxreply] at hpending

theorem Settled.reached_sublist {s : Spread} (h : Settled followers ws s) :
    (reached ws).Sublist followers :=
  (List.filter_sublist.map _).trans (h.each ▸ List.take_sublist ..)

/-- No follower is reached twice. -/
theorem Settled.nodup_delivered {s : Spread} (h : Settled followers ws s) (hn : followers.Nodup) :
    s.delivered.Nodup :=
  h.delivered.nodup_iff.mpr (hn.sublist h.reached_sublist)

/-- A fan-out that was not cut off has written to each follower. -/
theorem Settled.each_of_not_cancelled {s : Spread} (h : Settled followers ws s)
    (hc : s.cancelled = false) : ws.map (·.follower) = followers := by
  rw [h.each]
  refine List.take_of_length_le (Nat.le_of_not_lt fun hlt => ?_)
  rw [h.cancelled.mpr hlt] at hc
  cases hc

end Fanout

namespace Create

/-! ### The rows, turn by turn -/

/-- What a call has done to the store: the posts that it saved are behind the others, and behind the
rows of those whom its writes have reached. -/
structure Rows (store : Memory) (saved : List Post) (ws : List Fanout.Write) (store' : Memory) :
    Prop where
  posts : store'.posts = store.posts ++ saved
  fresh : ∀ p ∈ saved, ∀ q ∈ store.posts, q.id ≠ p.id
  rows : ∀ u, store'.timeline u = store.timeline u ++ if u ∈ Fanout.reached ws then saved else []

variable {c : Config} {author : UserId} {content : String} {l : Log} {before after : CreateStage}
  {m : Move} {w w' : World} {store store' : Memory} {saved : List Post}
  {ws ws' : List Fanout.Write}

theorem Rows.of_reached (h : Rows store saved ws store')
    (hr : ∀ u, u ∈ Fanout.reached ws' ↔ u ∈ Fanout.reached ws) : Rows store saved ws' store' :=
  ⟨h.posts, h.fresh, fun u => (h.rows u).trans (congrArg _ (if_congr (hr u).symm rfl rfl))⟩

/-- The save. -/
theorem Rows.record {p : Post} (h : Rows store [] [] w.store)
    (hid : ∀ q ∈ w.store.posts, q.id ≠ p.id) : Rows store [p] [] (w.record p).store := by
  have hposts : w.store.posts = store.posts := h.posts.trans (List.append_nil _)
  refine ⟨congrArg (· ++ [p]) hposts, fun q hq => ?_, h.rows⟩
  rw [List.mem_singleton.mp hq, ← hposts]
  exact hid

/-- A write of the post into a timeline. -/
theorem Rows.write {p : Post} {u : UserId} (hstore : store.Sound) (h : Rows store [p] ws w.store)
    (hu : u ∉ Fanout.reached ws)
    (hr : ∀ v, v ∈ Fanout.reached ws' ↔ v ∈ Fanout.reached ws ∨ v = u) :
    Rows store [p] ws' (w.write u p).store := by
  have hrows : w.store.timeline u = store.timeline u := by
    rw [h.rows, if_neg hu, List.append_nil]
  have hfresh : ∀ q ∈ w.store.timeline u, q.id ≠ p.id := by
    intro q hq
    rw [hrows] at hq
    exact h.fresh p (List.mem_singleton_self p) q (hstore.recorded u q hq)
  refine ⟨(Memory.posts_write ..).trans h.posts, h.fresh, fun v => ?_⟩
  show (w.store.write u p).timeline v = _
  rw [Memory.timeline_write]
  by_cases hv : v = u
  · subst hv
    rw [if_pos ⟨rfl, hfresh⟩, if_pos ((hr v).mpr (.inr rfl)), hrows]
  · rw [if_neg fun h => hv h.1, h.rows]
    exact congrArg _ (if_congr (by rw [hr, or_iff_left hv]) rfl rfl)

/-- A move of the fan-out, with what it does to the timelines. -/
theorem rows_spread {t : Trail} {f f' : Fanout} {move : Fanout.Move} (hstore : store.Sound)
    (hh : Fanout.History c.bounds t.post t.followers t.writes f) (hf : f.step? move = some f')
    (h : Rows store [t.post] t.writes w.store)
    (hw : (w' = w ∧ ∀ n, move ≠ .wrote n (.ok ())) ∨ ∃ n u, move = .wrote n (.ok ()) ∧
      Fanout.activity? f.workers n = some (.writing u) ∧ w' = w.write u t.post) :
    Rows store [t.post] (f.noted t.writes move) w'.store := by
  have hsound := Fanout.sound_of_history hh
  have hr := Fanout.mem_reached_of_step hsound hf (Fanout.sound_of_history (.move hh hf))
  rcases hw with ⟨rfl, hmove⟩ | ⟨n, u, rfl, hu, rfl⟩
  · refine h.of_reached fun v => ?_
    rw [hr, or_iff_left]
    rintro ⟨n, hn, -⟩
    exact hmove n hn
  · have hnew := Fanout.not_mem_reached_of_writing hsound (nodup_distinct _) hu
    refine h.write hstore hnew fun v => ?_
    rw [hr]
    refine or_congr_right ⟨?_, ?_⟩
    · rintro ⟨k, ⟨⟩, hv⟩
      exact (Activity.writing.inj (Option.some.inj (hu.symm.trans hv))).symm
    · rintro rfl
      exact ⟨n, rfl, hu⟩

theorem rows_turn (hstore : store.Sound) (ha : Account c author content l before)
    (hc : Course c author content w before m after w') (h : Rows store l.posts l.writes w.store) :
    let l' := l.turn c ⟨⟨author, content, before⟩, m, w, w'⟩ after
    Rows store l'.posts l'.writes w'.store := by
  cases hc with
  | recorded draft hid =>
    cases ha
    exact h.record hid
  | spread followers hf hmove =>
    cases ha with
    | spreading hd hh => exact rows_spread hstore hh hf h (.inl ⟨rfl, fun n => hmove n _⟩)
  | wrote followers hact hu hf =>
    cases ha with
    | spreading hd hh =>
      rw [(Fanout.sound_of_history hh).post]
      refine rows_spread hstore hh hf h (.inr ⟨_, _, rfl, ?_, rfl⟩)
      rw [Fanout.activity?_eq hact, hu]
  | notWritten followers hf =>
    cases ha with
    | spreading hd hh => exact rows_spread hstore hh hf h (.inl ⟨rfl, nofun⟩)
  | maintained post n s waiting now hu =>
    cases ha
    rw [World.store_upkeep]
    exact h
  | _ =>
    cases ha
    exact h

variable {ts : List Turn} {call : Create} {cancelled : Bool}

/-- What a call has done to the store that nobody else has changed. -/
theorem rows_of_run (hw : 0 < c.bounds.workers) (hstore : store.Sound)
    (h : Run c author content ts call) (halone : Alone store ts store') :
    Rows store (log c author content ts).posts (log c author content ts).writes store' := by
  induction h generalizing store' with
  | start =>
    cases halone
    exact ⟨(List.append_nil _).symm, nofun, fun u => (List.append_nil _).symm⟩
  | @turn ts call next m w w' hr hs ih =>
    obtain ⟨hbefore, rfl⟩ := alone_append.mp halone
    obtain ⟨hcall, hc⟩ := course_of_run hr hs
    rw [log_turn hs, hcall]
    exact rows_turn hstore (account_of_run hw hr) hc (ih hbefore)

/-! ### When the call has ended -/

/-- A post that was recorded, against what the fan-out reports. -/
structure Delivered (l : Log) (cancelled : Bool) (store : Memory) (post : Post)
    (named : List UserId) (s : Spread) (store' : Memory) : Prop where
  posts : store'.posts = store.posts ++ [post]
  /-- Nobody had the post before. -/
  new : ∀ u, post ∉ store.timeline u
  /-- Whoever was reached has it, once, and the others have what they had. -/
  rows : ∀ u, store'.timeline u = store.timeline u ++ if u ∈ s.delivered then [post] else []
  nodup : s.delivered.Nodup
  within : ∀ u ∈ s.delivered, u ∈ named
  /-- Whom the graph did not name, as a rule the author, has what they had. -/
  others : ∀ u, u ∉ named → store'.timeline u = store.timeline u
  reached : ∀ u, u ∈ s.delivered ↔ ∃ x ∈ l.writes, x.follower = u ∧ x.reply = some (.ok ())
  /-- Each follower was written to once, unless the caller cancelled. -/
  each : cancelled = false → l.writes.map (·.follower) = distinct named

/-- **One row for each follower that was reached.** Whatever the graph answered, whichever writes
failed and whenever the caller cancelled: when a call has ended and tells of a post that it
recorded, the store has that post behind those it had before, and so has the timeline of each
follower in the report of the fan-out, once. All other timelines are as they were, the author's too.
The report names followers only, none twice, and those whose write succeeded; if the caller never
cancelled, all were written to. -/
theorem one_row_per_follower (hw : 0 < c.bounds.workers) (hstore : store.Sound)
    (h : Watched c author content ts cancelled call) (halone : Alone store ts store')
    {r : Except Failure PostId} {id : PostId} (hr : call.result? = some r)
    (hid : recordedId? r = some id) :
    let l := log c author content ts
    ∃ draft named s, l.saved = [(draft, id)] ∧ l.named = some named ∧ l.report = some s ∧
      Delivered l cancelled store (draft.toPost id) named s store' := by
  intro l
  have hstage := stage_of_result hr
  have ha : Account c author content l (.finished r) := hstage ▸ account_of_run hw h.run
  have hcut : Cut c l cancelled (.finished r) := hstage ▸ cut_of_watched hw h
  have hrows := rows_of_run hw hstore h.run halone
  obtain ⟨s, hs, draft, hdraft⟩ := ha.report_of_finished hid
  obtain ⟨t, -, hsettled, hsaved, hnamed, hwrites⟩ := ha.reported hs
  have hreached (u : UserId) : u ∈ s.delivered ↔ u ∈ Fanout.reached l.writes := by
    rw [hwrites]
    exact hsettled.delivered.mem_iff
  have hposts : l.posts = [draft.toPost id] := congrArg (List.map _) hdraft
  rw [hposts] at hrows
  have hwithin (u : UserId) (hu : u ∈ s.delivered) : u ∈ t.named :=
    mem_distinct.mp (hsettled.reached_sublist.subset (hsettled.delivered.mem_iff.mp hu))
  have hdone (u : UserId) : store'.timeline u =
      store.timeline u ++ if u ∈ s.delivered then [draft.toPost id] else [] := by
    rw [hrows.rows]
    exact congrArg _ (if_congr (hreached u).symm rfl rfl)
  refine ⟨draft, t.named, s, hdraft, hnamed, hs, hrows.posts, ?_, hdone,
    hsettled.nodup_delivered (nodup_distinct _), hwithin, ?_, ?_, ?_⟩
  · intro u hu
    exact hrows.fresh _ (List.mem_singleton_self _) _ (hstore.recorded u _ hu) rfl
  · intro u hu
    rw [hdone, if_neg fun hd => hu (hwithin u hd), List.append_nil]
  · intro u
    rw [hreached, Fanout.mem_reached]
  · intro hnever
    rw [hwrites]
    refine hsettled.each_of_not_cancelled (Bool.eq_false_iff.mpr fun hc => ?_)
    have := (hcut s hs hc).1
    rw [hnever] at this
    cases this

/-- A post to one follower, named twice, is written and the follower's slice dropped. -/
theorem watched_upkept (cache : Cache.Store) :
    let c : Config := ⟨50, 100, 2000, 1000, .invalidate, .strict, ⟨50, 100⟩⟩
    let post := Draft.toPost ⟨⟨"alice"⟩, "hello", default⟩ ⟨.ofNat 1⟩
    let store : Memory := ⟨[post], [(⟨"bob"⟩, [post])]⟩
    ∃ ts t, t.before.cache = cache ∧ t.after.cache = cache.invalidate ⟨"bob"⟩ ∧
      Alone .empty (ts ++ [t]) store ∧
      Watched c ⟨"alice"⟩ "hello" (ts ++ [t]) false
        ⟨⟨"alice"⟩, "hello", .naming post 1 ⟨1, [⟨"bob"⟩], 0, false⟩⟩ ∧
      (log c ⟨"alice"⟩ "hello" (ts ++ [t])).named = some [⟨"bob"⟩, ⟨"bob"⟩] ∧
      (log c ⟨"alice"⟩ "hello" (ts ++ [t])).report = some ⟨1, [⟨"bob"⟩], 0, false⟩ := by
  intro c post store
  let bob : UserId := ⟨"bob"⟩
  let saved : World := ⟨⟨[post], []⟩, cache⟩
  let written : World := ⟨store, cache⟩
  let stand (stage : CreateStage) : Create := ⟨⟨"alice"⟩, "hello", stage⟩
  let spreading (n : Nat) (queue : List UserId) (w : Worker) (line left : List Nat) : Create :=
    stand (.spreading [bob] ⟨post, 100, [bob].drop n, n, queue, [w], line, left, false⟩)
  obtain ⟨ts, halone, resolved, hnamed⟩ := watched_resolved c cache [bob, bob]
  have dispatched : Watched c ⟨"alice"⟩ "hello" _ false (spreading 1 [bob] ⟨.away, [], 0⟩ [] []) :=
    resolved.own (.spread .dispatch) saved rfl rfl rfl
  have asked : Watched c ⟨"alice"⟩ "hello" _ false (spreading 1 [bob] ⟨.inLine, [], 0⟩ [0] []) :=
    dispatched.own (.spread (.ask 0)) saved rfl rfl rfl
  have taken : Watched c ⟨"alice"⟩ "hello" _ false (spreading 1 [] ⟨.writing bob, [], 0⟩ [] []) :=
    asked.own (.spread .take) saved rfl rfl rfl
  have wrote : Watched c ⟨"alice"⟩ "hello" _ false (spreading 1 [] ⟨.away, [bob], 0⟩ [] []) :=
    have hwritten : saved.answer? 0 (.write bob post) (.ok ()) = some written := rfl
    taken.answered (q := ⟨.write bob post, fun r => .spread (.wrote 0 r)⟩) 0 (.ok ())
      (List.mem_cons_self ..) hwritten rfl rfl
  have again : Watched c ⟨"alice"⟩ "hello" _ false (spreading 1 [] ⟨.inLine, [bob], 0⟩ [0] []) :=
    wrote.own (.spread (.ask 0)) written rfl rfl rfl
  have left : Watched c ⟨"alice"⟩ "hello" _ false
      (stand (.maintaining post 1 ⟨1, [bob], 0, false⟩ [bob] [])) :=
    again.own (.spread .leave) written rfl rfl rfl
  have maintaining : Watched c ⟨"alice"⟩ "hello" _ false
      (stand (.maintaining post 1 ⟨1, [bob], 0, false⟩ [] [bob])) :=
    left.own .maintain written rfl rfl rfl
  have maintained : Watched c ⟨"alice"⟩ "hello" _ false
      (stand (.naming post 1 ⟨1, [bob], 0, false⟩)) :=
    maintaining.answered (q := upkeep c post bob) (w := written) 0 (.ok ())
      (List.mem_cons_self ..) rfl rfl rfl
  refine ⟨_, _, rfl, rfl,
    .turn (.turn (.turn (.turn (.turn (.turn (.turn (.turn halone))))))), maintained, ?_, ?_⟩
  · simp only [log, List.foldl_append, List.foldl_cons, List.foldl_nil]
    exact hnamed
  · simp only [log, List.foldl_append, List.foldl_cons, List.foldl_nil]
    rfl

/-- The run of `watched_upkept`, announced. -/
theorem one_row_per_follower_of_announced :
    let c : Config := ⟨50, 100, 2000, 1000, .invalidate, .strict, ⟨50, 100⟩⟩
    let post := Draft.toPost ⟨⟨"alice"⟩, "hello", default⟩ ⟨.ofNat 1⟩
    let store : Memory := ⟨[post], [(⟨"bob"⟩, [post])]⟩
    ∃ ts call post named s, Watched c ⟨"alice"⟩ "hello" ts false call ∧ Alone .empty ts store ∧
      call.result? = some (.ok ⟨.ofNat 1⟩) ∧
      Delivered (log c ⟨"alice"⟩ "hello" ts) false .empty post named s store := by
  intro c post store
  let event : Event := .announcing post (.ofNat 2)
  let w : World := ⟨store, .create .standard⟩
  obtain ⟨ts, t, -, -, halone, upkept, -⟩ := watched_upkept (.create .standard)
  have named : Watched c ⟨"alice"⟩ "hello" _ false
      ⟨⟨"alice"⟩, "hello", .announcing post 1 ⟨1, [⟨"bob"⟩], 0, false⟩ event⟩ :=
    upkept.own (.named (.ofNat 2)) w rfl rfl rfl
  have announced : Watched c ⟨"alice"⟩ "hello" _ false
      ⟨⟨"alice"⟩, "hello", .finished (.ok ⟨.ofNat 1⟩)⟩ :=
    named.answered (q := ⟨.publish event, .announced⟩) (w := w) 0 (.ok ()) (List.mem_cons_self ..)
      rfl rfl rfl
  have hempty : Memory.empty.Sound := ⟨.nil, nofun, fun _ => .nil⟩
  obtain ⟨draft, names, s, -, -, -, hdelivered⟩ :=
    one_row_per_follower (by decide) hempty announced (.turn (.turn halone)) rfl rfl
  exact ⟨_, _, _, names, s, announced, .turn (.turn halone), rfl, hdelivered⟩

end Create
end Timelines.Service
