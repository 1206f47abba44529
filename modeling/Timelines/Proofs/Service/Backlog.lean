import Timelines.Proofs.Service.Requests

/-! How far a fan-out runs ahead of its writes.

`backlog_bounded`: at all times the followers dispatched so far are those whose writes ended, those
to whom a worker is writing, and those queued. No two workers have one write, no worker has two, and
no more are writing than the pool has workers or there are followers. So the dispatcher is ahead of
the writes that ended by these and a full queue at the most. -/
namespace Timelines.Service.Fanout

/-- The writes that have no answer yet. -/
def awaited (ws : List Write) : List Write := ws.filter (·.reply.isNone)

/-- The writes that ended, one way or the other. -/
def ended (ws : List Write) : List Write := ws.filter (·.reply.isSome)

/-- The worker that makes a write, and the follower to whom. -/
def Write.holder (x : Write) : Nat × UserId := (x.worker, x.follower)

/-- The write that a worker of a number has in hand. -/
def hand? (f : Fanout) (n : Nat) : Option (Nat × UserId) :=
  match activity? f.workers n with
  | some (.writing u) => some (n, u)
  | _ => none

/-- The writes that the workers have in hand. -/
def inHand (f : Fanout) : List (Nat × UserId) := (List.range f.workers.length).filterMap f.hand?

variable {bounds : Bounds} {post : Post} {followers : List UserId} {ws : List Write} {f : Fanout}

/-! ### In hand -/

theorem hand?_eq_some_iff {n m : Nat} {u : UserId} :
    f.hand? n = some (m, u) ↔ m = n ∧ activity? f.workers n = some (.writing u) := by
  unfold hand?
  split
  next v hv => simp [hv, eq_comm]
  next hn => exact ⟨nofun, fun h => absurd h.2 (hn u)⟩

theorem mem_inHand {n : Nat} {u : UserId} :
    (n, u) ∈ f.inHand ↔ activity? f.workers n = some (.writing u) := by
  simp only [inHand, List.mem_filterMap, List.mem_range, hand?_eq_some_iff]
  constructor
  · rintro ⟨m, -, rfl, ha⟩
    exact ha
  · intro ha
    obtain ⟨w, hw, -⟩ := Option.map_eq_some_iff.mp ha
    exact ⟨n, (List.getElem?_eq_some_iff.mp hw).1, rfl, ha⟩

/-- No worker has two writes in hand. -/
theorem nodup_workers_inHand (f : Fanout) : (f.inHand.map (·.1)).Nodup := by
  rw [inHand, List.map_filterMap]
  refine List.nodup_range.filterMap fun n m k hn hm => ?_
  obtain ⟨⟨i, u⟩, hi, rfl⟩ := Option.map_eq_some_iff.mp hn
  obtain ⟨⟨j, v⟩, hj, he⟩ := Option.map_eq_some_iff.mp hm
  rw [← (hand?_eq_some_iff.mp hi).1, ← (hand?_eq_some_iff.mp hj).1]
  exact he.symm

theorem length_inHand_le (f : Fanout) : f.inHand.length ≤ f.workers.length := by
  have := List.length_filterMap_le f.hand? (List.range f.workers.length)
  rwa [List.length_range] at this

/-- The requests under way are to write the post to those in hand. -/
theorem requests_eq_inHand (f : Fanout) :
    f.requests = f.inHand.map fun h => .write h.2 f.post := by
  rw [← requests_eq, List.map_filterMap, inHand, List.map_filterMap]
  congr 1
  funext n
  rw [writing?_request]
  unfold hand? activity?
  cases f.workers[n]? with
  | none => rfl
  | some w =>
    obtain ⟨activity, delivered, failed⟩ := w
    cases activity <;> rfl

/-! ### Awaited -/

theorem mem_underWay {a : Option Activity} {u : UserId} :
    u ∈ underWay a ↔ a = some (.writing u) := by
  unfold underWay
  split
  next v => simp [eq_comm]
  next hn => exact ⟨nofun, fun h => absurd h (hn u)⟩

theorem mem_writing {n : Nat} {u : UserId} :
    u ∈ writing n ws ↔ (n, u) ∈ (awaited ws).map Write.holder := by
  simp only [writing, awaited, Write.holder, Write.pending, List.mem_map, List.mem_filter,
    Bool.and_eq_true, beq_iff_eq, Prod.mk.injEq]
  exact exists_congr fun x => by tauto

theorem count_writing (n : Nat) (u : UserId) :
    (writing n ws).count u = ((awaited ws).map Write.holder).count (n, u) := by
  unfold writing awaited
  rw [List.count_eq_countP, List.count_eq_countP, List.countP_map, List.countP_map,
    List.countP_filter, List.countP_filter]
  refine List.countP_congr fun x _ => ?_
  simp [Write.holder, Write.pending]
  tauto

/-- The writes without an answer are those that the workers have in hand, one for one. -/
theorem Sound.awaited_perm (h : Sound bounds post followers ws f) :
    ((awaited ws).map Write.holder).Perm f.inHand := by
  have hmem (n : Nat) (u : UserId) :
      (n, u) ∈ (awaited ws).map Write.holder ↔ (n, u) ∈ f.inHand := by
    rw [← mem_writing, h.accounted.writing, mem_underWay, mem_inHand]
  refine (List.perm_ext_iff_of_nodup ?_ (nodup_workers_inHand f).of_map).mpr fun p => hmem p.1 p.2
  rw [List.nodup_iff_count_le_one]
  rintro ⟨n, u⟩
  rw [← count_writing, h.accounted.writing]
  unfold underWay
  split
  next v => exact List.count_le_length
  next => exact Nat.zero_le _

/-! ### Queued -/

theorem queued_of_step {f' : Fanout} {m : Move} (h : f.queue.length ≤ f.capacity)
    (hs : Course f m f') : f'.queue.length ≤ f'.capacity := by
  cases hs with
  | dispatch hr hc hq =>
    rw [List.length_append]
    exact hq
  | stop hc => exact h
  | ask hw ha => exact h
  | take hl hq hw =>
    rw [hq, List.length_cons] at h
    exact Nat.le_of_succ_le h
  | wrote hw ha => exact h
  | notWritten e hw ha => exact h
  | leave hl hc hq hw => exact h

theorem queued_of_history (h : History bounds post followers ws f) :
    f.queue.length ≤ f.capacity := by
  induction h with
  | start => exact Nat.zero_le _
  | move _ hs ih => exact queued_of_step ih (course_of_step hs)

/-! ### Ahead -/

/-- The followers dispatched are those written to, in order, and then those queued. -/
theorem Sound.dispatched (h : Sound bounds post followers ws f) :
    ws.map (·.follower) ++ f.queue = followers.take f.dispatched := by
  have hlen : f.dispatched = (ws.map (·.follower) ++ f.queue).length := by
    rw [h.accounted.dispatched, List.length_append, List.length_map]
  rw [← h.accounted.kept, hlen, List.take_left]

theorem length_awaited_ended (ws : List Write) :
    ws.length = (awaited ws).length + (ended ws).length := by
  rw [awaited, ended, ← List.countP_eq_length_filter, ← List.countP_eq_length_filter,
    List.length_eq_countP_add_countP fun x => x.reply.isNone]
  congr 1
  exact List.countP_congr fun x _ => by simp [Option.isSome_iff_ne_none]

/-- What a fan-out has set going and what has become of it. -/
structure Backlog (bounds : Bounds) (post : Post) (followers : List UserId) (ws : List Write)
    (f : Fanout) : Prop where
  /-- The followers dispatched are those written to, in order, and then those queued. -/
  dispatched : ws.map (·.follower) ++ f.queue = followers.take f.dispatched
  /-- Each write has ended or is in the hand of one worker. -/
  awaited : ((awaited ws).map Write.holder).Perm f.inHand
  workers : (f.inHand.map (·.1)).Nodup
  requests : f.requests = f.inHand.map fun h => .write h.2 post
  inFlight : f.requests.length ≤ min bounds.workers followers.length
  queued : f.queue.length ≤ bounds.queue
  ahead : f.dispatched ≤ (ended ws).length + (min bounds.workers followers.length + bounds.queue)

/-- **The backlog of a fan-out is bounded.** However the dispatcher and the workers take turns,
however long the writes take and however they end, and whenever the caller cancels: each follower
that was dispatched is queued, in the hand of one worker, or has its write behind it, and of the
first two kinds there are no more than places in the queue and workers. -/
theorem backlog_bounded (h : History bounds post followers ws f) :
    Backlog bounds post followers ws f := by
  have hs := sound_of_history h
  have hqueue : f.queue.length ≤ bounds.queue := hs.capacity ▸ queued_of_history h
  have hcrew : f.inHand.length ≤ min bounds.workers followers.length :=
    hs.crew ▸ length_inHand_le f
  have hrequests := hs.post ▸ requests_eq_inHand f
  refine ⟨hs.dispatched, hs.awaited_perm, nodup_workers_inHand f, hrequests, ?_, hqueue, ?_⟩
  · rw [hrequests, List.length_map]
    exact hcrew
  · have hawaited : (Fanout.awaited ws).length = f.inHand.length := by
      rw [← hs.awaited_perm.length_eq, List.length_map]
    have := length_awaited_ended ws
    rw [hs.accounted.dispatched]
    omega

/-- One worker and a queue of one: with the first write not yet answered the second follower is
queued, and the third cannot be dispatched. -/
theorem backlog_bounded_of_full :
    ∃ ws f, History ⟨1, 1⟩ default [⟨"bob"⟩, ⟨"carol"⟩, ⟨"dave"⟩] ws f ∧ f.dispatched = 2 ∧
      ended ws = [] ∧ f.step? .dispatch = none ∧
      Backlog ⟨1, 1⟩ default [⟨"bob"⟩, ⟨"carol"⟩, ⟨"dave"⟩] ws f := by
  have started : History ⟨1, 1⟩ default [⟨"bob"⟩, ⟨"carol"⟩, ⟨"dave"⟩] _ _ := .start
  have dispatched := History.move (m := .dispatch) started rfl
  have asked := History.move (m := .ask 0) dispatched rfl
  have taken := History.move (m := .take) asked rfl
  have again := History.move (m := .dispatch) taken rfl
  exact ⟨_, _, again, rfl, rfl, rfl, backlog_bounded again⟩

end Timelines.Service.Fanout
