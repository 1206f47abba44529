import Timelines.Proofs.Service.Completion
import Timelines.Proofs.Service.Failures

/-! Failures that do not surface.

Once its post is recorded, a call asks for the followers, for the writes and for the upkeep, and
goes on whatever they come to. `side_paths_never_surface`: they have no part in the result, and each
fault of theirs is reported once. Whether there is a result may hang on the followers, for only a
fan-out needs its queue: one that cannot be breaks a call with followers, and no call without
(`side_path_failure_surfaces`). -/
namespace Timelines.Service.Create

variable {c : Config} {author : UserId} {content : String} {ts : List Turn} {call : Create}

/-- **Failures of side paths never surface.** Whatever the peers answer to a call whose caller never
cancels, and in whatever order they do: its result is the verdict on the lookup, its content, the
save and, where it is waited for, the announcement. A second history in which these came to the
same, and the followers, the writes and the upkeep to anything, has the same result. The call breaks
just if the clock has no answer, or the graph names followers and the queue to them cannot be.
Otherwise it goes on until it has a result, in no more moves than eight for each follower and six
besides. Each fault of the followers, of a write or of the upkeep is counted once and noted once, in
order, and no fault besides. -/
theorem side_paths_never_surface (hw : 0 < c.bounds.workers) (hq : 0 < c.bounds.queue)
    (h : Watched c author content ts false call) :
    (∀ r, call.result? = some r → verdict c.publish author content (heard ts) = some r ∧
      ∀ ts' call' r', Watched c author content ts' false call' → call'.result? = some r' →
        Agree c.publish (heard ts) (heard ts') → r = r') ∧
    (call.stage = .broken ↔ Breaks c (heard ts)) ∧
    (call.result? = none → call.stage ≠ .broken → call.GoesOn c) ∧
    ts.length ≤ 6 + 8 * (heard ts).named ∧
    (reported c ts).filter Report.ofFault = (faults c ts).flatMap Fault.reports := by
  have hbound := Nat.le_trans (Nat.le_add_right ..) (length_le_of_watched hw h)
  refine ⟨fun r hr => ⟨verdict_of_result h hr, ?_⟩, breaks_iff (stands_of_watched h),
    goes_on hw hq h, hbound, reported_of_run h.run⟩
  intro ts' call' r' h' hr' hagree
  exact hagree.verdict_eq (verdict_of_result h hr) (verdict_of_result h' hr')

/-- A write times out and the cache is down, and the call succeeds all the same. -/
theorem side_paths_never_surface_of_outage :
    let c : Config := ⟨50, 100, 2000, 1000, .invalidate, .strict, ⟨50, 100⟩⟩
    let post := Draft.toPost ⟨⟨"alice"⟩, "hello", default⟩ ⟨.ofNat 1⟩
    ∃ ts call, Watched c ⟨"alice"⟩ "hello" ts false call ∧
      call.result? = some (.ok ⟨.ofNat 1⟩) ∧
      verdict .strict ⟨"alice"⟩ "hello" (heard ts) = some (.ok ⟨.ofNat 1⟩) ∧
      [⟨.write ⟨"bob"⟩ post, some ⟨.ofNat 1⟩, "database timeout"⟩,
        ⟨.cacheInvalidate ⟨"bob"⟩, some ⟨.ofNat 1⟩, "timeline cache unavailable: down"⟩] <:+
          faults c ts := by
  intro c post
  let bob : UserId := ⟨"bob"⟩
  let event : Event := .announcing post (.ofNat 2)
  let w : World := ⟨⟨[post], []⟩, .create .standard⟩
  let stand (stage : CreateStage) : Create := ⟨⟨"alice"⟩, "hello", stage⟩
  let spreading (n : Nat) (queue : List UserId) (w : Worker) (line left : List Nat) : Create :=
    stand (.spreading [bob] ⟨post, 100, [bob].drop n, n, queue, [w], line, left, false⟩)
  obtain ⟨ts, -, resolved, -⟩ := watched_resolved c w.cache [bob]
  have dispatched : Watched c ⟨"alice"⟩ "hello" _ false (spreading 1 [bob] ⟨.away, [], 0⟩ [] []) :=
    resolved.own (.spread .dispatch) w rfl rfl rfl
  have asked : Watched c ⟨"alice"⟩ "hello" _ false (spreading 1 [bob] ⟨.inLine, [], 0⟩ [0] []) :=
    dispatched.own (.spread (.ask 0)) w rfl rfl rfl
  have taken : Watched c ⟨"alice"⟩ "hello" _ false (spreading 1 [] ⟨.writing bob, [], 0⟩ [] []) :=
    asked.own (.spread .take) w rfl rfl rfl
  have notWritten : Watched c ⟨"alice"⟩ "hello" _ false (spreading 1 [] ⟨.away, [], 1⟩ [] []) :=
    taken.answered (q := ⟨.write bob post, fun r => .spread (.wrote 0 r)⟩) (w := w) 0
      (.error .timeout) (List.mem_cons_self ..) rfl rfl rfl
  have again : Watched c ⟨"alice"⟩ "hello" _ false (spreading 1 [] ⟨.inLine, [], 1⟩ [0] []) :=
    notWritten.own (.spread (.ask 0)) w rfl rfl rfl
  have left : Watched c ⟨"alice"⟩ "hello" _ false
      (stand (.maintaining post 1 ⟨1, [], 1, false⟩ [bob] [])) :=
    again.own (.spread .leave) w rfl rfl rfl
  have maintaining : Watched c ⟨"alice"⟩ "hello" _ false
      (stand (.maintaining post 1 ⟨1, [], 1, false⟩ [] [bob])) :=
    left.own .maintain w rfl rfl rfl
  have notMaintained : Watched c ⟨"alice"⟩ "hello" _ false
      (stand (.naming post 1 ⟨1, [], 1, false⟩)) :=
    maintaining.answered (q := upkeep c post bob) (w := w) 0 (.error (.unavailable "down"))
      (List.mem_cons_self ..) rfl rfl rfl
  have named : Watched c ⟨"alice"⟩ "hello" _ false
      (stand (.announcing post 1 ⟨1, [], 1, false⟩ event)) :=
    notMaintained.own (.named (.ofNat 2)) w rfl rfl rfl
  have announced : Watched c ⟨"alice"⟩ "hello" _ false (stand (.finished (.ok ⟨.ofNat 1⟩))) :=
    named.answered (q := ⟨.publish event, .announced⟩) (w := w) 0 (.ok ()) (List.mem_cons_self ..)
      rfl rfl rfl
  have hverdict := ((side_paths_never_surface (by decide) (by decide) announced).1 _ rfl).1
  refine ⟨_, _, announced, rfl, hverdict, faults c ts, ?_⟩
  simp only [faults, List.filterMap_append, List.append_assoc]
  rfl

/-- It is not so that a failure of a side path never surfaces: with followers the queue to them
cannot be, and the call breaks; with the graph out of order it succeeds. -/
theorem side_path_failure_surfaces :
    ¬∀ (c : Config) (author : UserId) (content : String) (ts ts' : List Turn)
      (call call' : Create), 0 < c.bounds.workers → 0 < c.bounds.queue →
      Watched c author content ts false call → Watched c author content ts' false call' →
      (heard ts).clock = (heard ts').clock → Agree c.publish (heard ts) (heard ts') →
      (∀ m w next w', ¬(machine c).Step call w m next w') →
      (∀ m w next w', ¬(machine c).Step call' w m next w') → call.result? = call'.result? := by
  intro hall
  let c : Config :=
    ⟨50, 100, 2000, 1000, .invalidate, .bestEffort 3 200, ⟨50, Fanout.maxQueue + 1⟩⟩
  let post := Draft.toPost ⟨⟨"alice"⟩, "hello", default⟩ ⟨.ofNat 1⟩
  let w : World := ⟨⟨[post], []⟩, .create .standard⟩
  let stand (stage : CreateStage) : Create := ⟨⟨"alice"⟩, "hello", stage⟩
  obtain ⟨ts, -, recorded⟩ := watched_recorded c w.cache
  have unresolved : Watched c ⟨"alice"⟩ "hello" _ false
      (stand (.naming post 0 ⟨0, [], 0, false⟩)) :=
    recorded.answered (q := ⟨.followers ⟨"alice"⟩, .resolved⟩) (w := w) 0
      (.error (.transport "refused")) (List.mem_cons_self ..) rfl rfl rfl
  have named : Watched c ⟨"alice"⟩ "hello" _ false (stand (.finished (.ok ⟨.ofNat 1⟩))) :=
    unresolved.own (.named (.ofNat 2)) w rfl rfl rfl
  have jammed : Watched c ⟨"alice"⟩ "hello" _ false (stand .broken) :=
    recorded.answered (q := ⟨.followers ⟨"alice"⟩, .resolved⟩) (w := w) 0 (.ok [⟨"bob"⟩])
      (List.mem_cons_self ..) rfl rfl rfl
  have hresult := hall c _ _ _ _ _ _ (by decide) (by decide) named jammed ?_ ?_ ?_ ?_
  · cases hresult
  · simp only [heard_snoc]
    rfl
  · simp only [heard_snoc]
    exact ⟨fun _ hx _ hy => Option.mem_unique hx hy, fun _ hx _ hy => Option.mem_unique hx hy,
      nofun⟩
  · intro m w next w' hs
    cases (course_of_step hs).2.2
  · intro m w next w' hs
    cases (course_of_step hs).2.2

end Timelines.Service.Create
