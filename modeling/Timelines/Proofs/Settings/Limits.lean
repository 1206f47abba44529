import Timelines.Program.Run
import Timelines.Proofs.Settings.Checks
import Timelines.Service.Background
import Timelines.Service.Create

/-! What accepted settings can still break.

Three things are made of settings once they are accepted, and each has a limit above which the
program breaks down: the channel of events, the queue of a fan-out and the pause between two
attempts to publish. The check keeps zero away from all of them and knows none of the limits:
`holds_iff_within` says that settings which the check allows hold up exactly below the limits, and
`accepted_not_always_holds` that some are above. -/
namespace Timelines.Settings
open Service

/-- Nothing that is made of settings later breaks down. -/
structure Holds (s : Settings) : Prop where
  publisher : (Program.publisher? s.events).isSome
  /-- A post can be spread to any followers. -/
  fanout : ∀ post followers, followers ≠ [] →
    Create.afterResolving s.serviceConfig post followers ≠ .broken
  /-- An event can be published as often as it may be. -/
  pauses : ∀ maxAttempts backoff, s.timeline.publish = .bestEffort maxAttempts backoff →
    ∀ event n, 0 < n → n < maxAttempts →
      ((Retry.start event maxAttempts backoff).pause? n).isSome

/-- The limits. -/
structure Within (s : Settings) : Prop where
  channel : s.events.webhookUrl = none → s.events.broadcastCapacity ≤ Ring.maxCapacity
  queue : s.fanout.queue ≤ Fanout.maxQueue
  /-- The longest pause is the last. -/
  pause : ∀ maxAttempts backoff, s.timeline.publish = .bestEffort maxAttempts backoff →
    backoff * (maxAttempts - 1) / 1000 < Number.Word.count 64

/-! ### What the check keeps away -/

/-- There is a worker, and room in the queue. -/
theorem pos_of_checkFanout {raw : RawFanout} {s : Bounds} (h : checkFanout raw = .ok s) :
    0 < s.workers ∧ 0 < s.queue := by
  obtain ⟨workers, hworkers, h⟩ := exists_of_bind h
  obtain ⟨queue, hqueue, h⟩ := exists_of_bind h
  cases h
  exact ⟨pos_of_positive hworkers, pos_of_positive hqueue⟩

/-- There is room in the channel. -/
theorem pos_of_checkEvents {raw : RawEvents} {s : Events} (h : checkEvents raw = .ok s) :
    0 < s.broadcastCapacity := by
  unfold checkEvents at h
  have hrest {url : Option Url} (h : (do
      return (⟨url, ← positive "events.timeout_ms" (raw.timeout.getD 2000),
        ← positive "events.broadcast_capacity" (raw.broadcastCapacity.getD 1024)⟩ : Events)) =
        .ok s) : 0 < s.broadcastCapacity := by
    obtain ⟨timeout, -, h⟩ := exists_of_bind h
    obtain ⟨capacity, hcapacity, h⟩ := exists_of_bind h
    cases h
    exact pos_of_positive hcapacity
  split at h
  · obtain ⟨url, -, h⟩ := exists_of_bind h
    exact hrest h
  · exact hrest h

/-- An event is published once at least. -/
theorem pos_of_checkPublish {raw : RawTimeline} {maxAttempts backoff : Nat}
    (h : checkPublish raw = .ok (.bestEffort maxAttempts backoff)) : 0 < maxAttempts := by
  unfold checkPublish at h
  split at h
  · cases h
  · cases h
  · obtain ⟨attempts, hattempts, h⟩ := exists_of_bind h
    cases h
    exact pos_of_positive hattempts
  · cases h

theorem checkPublish_of_checkTimeline {raw : RawTimeline} {s : Timeline}
    (h : checkTimeline raw = .ok s) : checkPublish raw = .ok s.publish := by
  obtain ⟨queryLimit, -, h⟩ := exists_of_bind h
  obtain ⟨refillTimeout, -, h⟩ := exists_of_bind h
  simp only at h
  split at h
  · cases h
  · obtain ⟨maintenance, -, h⟩ := exists_of_bind h
    obtain ⟨publish, hpublish, h⟩ := exists_of_bind h
    cases h
    exact hpublish

/-! ### The three limits -/

/-- A channel that is asked for some room can be, up to its limit. -/
theorem publisher?_isSome_iff {s : Events} (h : 0 < s.broadcastCapacity) :
    (Program.publisher? s).isSome ↔
      (s.webhookUrl = none → s.broadcastCapacity ≤ Ring.maxCapacity) := by
  unfold Program.publisher?
  cases hurl : s.webhookUrl with
  | some url => exact iff_of_true rfl nofun
  | none =>
    rw [Option.isSome_map, EventLog.open?, Option.isSome_map, Ring.create?]
    split
    next hbad =>
      have hover := hbad.resolve_left (Nat.ne_of_gt h)
      exact iff_of_false nofun fun hle => absurd (hle rfl) (Nat.not_le.mpr hover)
    next hgood => exact iff_of_true rfl fun _ => Nat.not_lt.mp fun hover => hgood (.inr hover)

theorem afterResolving_ne_broken_iff (c : Config) (post : Post) {followers : List UserId}
    (h : followers ≠ []) :
    Create.afterResolving c post followers ≠ .broken ↔ c.bounds.queue ≤ Fanout.maxQueue := by
  unfold Create.afterResolving
  split
  next => exact absurd rfl h
  next =>
    split
    next hover => exact iff_of_false (fun hne => hne rfl) (Nat.not_le.mpr hover)
    next hle => exact iff_of_true nofun (Nat.not_lt.mp hle)

/-- Pauses grow, so that the last tells of all. -/
theorem pauses_iff (event : Event) {maxAttempts : Nat} (h : 0 < maxAttempts) (backoff : Nat) :
    (∀ n, 0 < n → n < maxAttempts →
        ((Retry.start event maxAttempts backoff).pause? n).isSome) ↔
      backoff * (maxAttempts - 1) / 1000 < Number.Word.count 64 := by
  have hpause (n : Nat) : ((Retry.start event maxAttempts backoff).pause? n).isSome ↔
      backoff * n / 1000 < Number.Word.count 64 := by
    unfold Retry.pause?
    split
    next hlt => exact iff_of_true rfl hlt
    next hge => exact iff_of_false nofun hge
  constructor
  · intro hall
    rcases Nat.eq_zero_or_pos (maxAttempts - 1) with hone | hlast
    · rw [hone, Nat.mul_zero, Nat.zero_div]
      exact Nat.two_pow_pos 64
    · exact (hpause _).mp (hall _ hlast (Nat.sub_one_lt_of_lt h))
  · intro hlast n _ hn
    have hle : backoff * n / 1000 ≤ backoff * (maxAttempts - 1) / 1000 :=
      Nat.div_le_div_right (Nat.mul_le_mul_left _ (Nat.le_sub_one_of_lt hn))
    exact (hpause n).mpr (Nat.lt_of_le_of_lt hle hlast)

/-- **Accepted settings hold up exactly within the limits.** Of settings that the check allows, the
publisher can be made unless it is a channel that is asked for too much room; a post can be spread
to followers, whoever they are, unless the queue is asked for too much room; and an event can be
published as often as it may be unless the last pause is longer than time can be told. Nothing else
breaks these three: no room at all is never asked for. -/
theorem holds_iff_within {raw : Raw} {s : Settings} (h : check raw = .ok s) :
    (s.Holds ↔ s.Within) ∧
      (0 < s.fanout.workers ∧ 0 < s.fanout.queue ∧ 0 < s.events.broadcastCapacity) ∧
      ((Program.publisher? s.events).isSome ↔
        (s.events.webhookUrl = none → s.events.broadcastCapacity ≤ Ring.maxCapacity)) ∧
      (∀ post followers, followers ≠ [] →
        (Create.afterResolving s.serviceConfig post followers ≠ .broken ↔
          s.fanout.queue ≤ Fanout.maxQueue)) ∧
      ∀ maxAttempts backoff, s.timeline.publish = .bestEffort maxAttempts backoff → ∀ event,
        ((∀ n, 0 < n → n < maxAttempts →
            ((Retry.start event maxAttempts backoff).pause? n).isSome) ↔
          backoff * (maxAttempts - 1) / 1000 < Number.Word.count 64) := by
  obtain ⟨-, -, hbounds, htimeline, -, -, hevents⟩ := sections_of_check h
  obtain ⟨hworkers, hqueue⟩ := pos_of_checkFanout hbounds
  have hcapacity := pos_of_checkEvents hevents
  have hpublisher := publisher?_isSome_iff hcapacity
  have hfanout := afterResolving_ne_broken_iff s.serviceConfig
  have hpauses maxAttempts backoff (hp : s.timeline.publish = .bestEffort maxAttempts backoff)
      (event : Event) := pauses_iff event
    (pos_of_checkPublish (hp ▸ checkPublish_of_checkTimeline htimeline)) backoff
  refine ⟨⟨fun hh => ?_, fun hw => ?_⟩, ⟨hworkers, hqueue, hcapacity⟩, hpublisher,
    fun post _ => hfanout post, hpauses⟩
  · exact ⟨hpublisher.mp hh.publisher,
      (hfanout default (List.cons_ne_nil default [])).mp (hh.fanout _ _ (List.cons_ne_nil _ _)),
      fun maxAttempts backoff hp =>
        (hpauses maxAttempts backoff hp default).mp (hh.pauses _ _ hp default)⟩
  · exact ⟨hpublisher.mpr hw.channel, fun post _ hne => (hfanout post hne).mpr hw.queue,
      fun maxAttempts backoff hp event =>
        (hpauses maxAttempts backoff hp event).mpr (hw.pause _ _ hp)⟩

/-! ### Above the limits -/

/-- Settings are allowed when every section is. -/
theorem check_of_sections {raw : Raw} {s : Settings}
    (hlogging : checkLogging raw.logging = .ok s.logging)
    (hdatabase : checkDatabase raw.database = .ok s.database)
    (hfanout : checkFanout raw.fanout = .ok s.fanout)
    (htimeline : checkTimeline raw.timeline = .ok s.timeline)
    (hcache : checkCache raw.cache = .ok s.cache) (hgraph : checkGraph raw.graph = .ok s.graph)
    (hevents : checkEvents raw.events = .ok s.events) : check raw = .ok s := by
  rw [check, hlogging, hdatabase, hfanout, htimeline, hcache, hgraph, hevents]
  rfl

/-- Settings given for a channel of `capacity` events, a queue of `queue` followers and `attempts`
attempts with pauses that grow by `backoff` milliseconds, of a social graph near by. -/
def Raw.roomy (capacity queue attempts backoff : Nat) : Raw where
  logging := ⟨none, none⟩
  database := ⟨none, none⟩
  fanout := ⟨none, some queue⟩
  timeline := ⟨none, none, none, none, some "best_effort", some attempts, some backoff⟩
  cache := ⟨none, none, none⟩
  graph := ⟨some "http://[::1]", none⟩
  events := ⟨none, none, some capacity⟩

/-- The check allows them, zero apart, whatever the numbers are. -/
theorem check_roomy {capacity queue attempts : Nat} (hc : 0 < capacity) (hq : 0 < queue)
    (ha : 0 < attempts) (backoff : Nat) :
    ∃ s, check (Raw.roomy capacity queue attempts backoff) = .ok s ∧
      s.events.webhookUrl = none ∧ s.events.broadcastCapacity = capacity ∧
      s.fanout.queue = queue ∧ s.timeline.publish = .bestEffort attempts backoff := by
  have hpositive (key : String) {n : Nat} (hn : 0 < n) : positive key n = .ok n :=
    if_neg (Nat.ne_of_gt hn)
  have hfanout : checkFanout ⟨none, some queue⟩ = .ok ⟨50, queue⟩ := by
    rw [checkFanout, Option.getD_some, hpositive _ hq]
    rfl
  have hevents : checkEvents ⟨none, none, some capacity⟩ = .ok ⟨none, 2000, capacity⟩ := by
    rw [checkEvents, Option.getD_some, hpositive _ hc]
    rfl
  have htimeline : checkTimeline (Raw.roomy capacity queue attempts backoff).timeline =
      .ok ⟨50, 2000, 1000, .invalidate, .bestEffort attempts backoff⟩ := by
    have hpublish : checkPublish (Raw.roomy capacity queue attempts backoff).timeline =
        positive "timeline.publish_max_attempts" attempts >>= fun n =>
          .ok (.bestEffort n backoff) := rfl
    rw [checkTimeline, hpublish, hpositive _ ha]
    rfl
  have hgraph : ∃ graph, checkGraph ⟨some "http://[::1]", none⟩ = .ok graph := by
    have hok : (checkGraph ⟨some "http://[::1]", none⟩).isOk = true := by decide +kernel
    cases hr : checkGraph ⟨some "http://[::1]", none⟩ with
    | ok graph => exact ⟨graph, rfl⟩
    | error failure =>
      rw [hr] at hok
      cases hok
  obtain ⟨graph, hgraph⟩ := hgraph
  let s : Settings := ⟨⟨.info, false⟩, ⟨none, 8⟩, ⟨50, queue⟩,
    ⟨50, 2000, 1000, .invalidate, .bestEffort attempts backoff⟩, ⟨10000, 100, none⟩, graph,
    ⟨none, 2000, capacity⟩⟩
  exact ⟨s, check_of_sections rfl rfl hfanout htimeline rfl hgraph hevents, rfl, rfl, rfl, rfl⟩

/-- The smallest channel that is too large is allowed, and breaks. -/
theorem holds_iff_within_of_channel : ∃ raw s, check raw = .ok s ∧ ¬s.Holds ∧
    (Program.publisher? s.events).isSome = false := by
  obtain ⟨s, hcheck, hurl, hcapacity, -, -⟩ :=
    check_roomy (Nat.succ_pos Ring.maxCapacity) (Nat.succ_pos 99) (Nat.succ_pos 2) 200
  obtain ⟨hiff, -, hpublisher, -, -⟩ := holds_iff_within hcheck
  have hover : ¬(s.events.webhookUrl = none → s.events.broadcastCapacity ≤ Ring.maxCapacity) := by
    intro hle
    have := hle hurl
    rw [hcapacity] at this
    exact Nat.not_succ_le_self _ this
  exact ⟨_, s, hcheck, fun hh => hover (hiff.mp hh).channel,
    Bool.eq_false_iff.mpr fun hsome => hover (hpublisher.mp hsome)⟩

/-- It is not so that nothing breaks of accepted settings: neither the channel, nor the queue, nor
the pauses. -/
theorem accepted_not_always_holds :
    (¬∀ raw s, check raw = .ok s → (Program.publisher? s.events).isSome) ∧
      (¬∀ raw s, check raw = .ok s → ∀ post followers, followers ≠ [] →
        Create.afterResolving s.serviceConfig post followers ≠ .broken) ∧
      ¬∀ raw s, check raw = .ok s → ∀ maxAttempts backoff,
        s.timeline.publish = .bestEffort maxAttempts backoff → ∀ event n, 0 < n → n < maxAttempts →
          ((Retry.start event maxAttempts backoff).pause? n).isSome := by
  refine ⟨fun hall => ?_, fun hall => ?_, fun hall => ?_⟩
  · obtain ⟨s, hcheck, hurl, hcapacity, -, -⟩ :=
      check_roomy (Nat.succ_pos Ring.maxCapacity) (Nat.succ_pos 99) (Nat.succ_pos 2) 200
    have hle := (publisher?_isSome_iff (hcapacity ▸ Nat.succ_pos _)).mp (hall _ s hcheck) hurl
    exact Nat.not_succ_le_self _ (hcapacity ▸ hle)
  · obtain ⟨s, hcheck, -, -, hqueue, -⟩ :=
      check_roomy (Nat.succ_pos 1023) (Nat.succ_pos Fanout.maxQueue) (Nat.succ_pos 2) 200
    have hle := (afterResolving_ne_broken_iff s.serviceConfig default
      (List.cons_ne_nil default [])).mp (hall _ s hcheck _ _ (List.cons_ne_nil _ _))
    exact Nat.not_succ_le_self _ (hqueue ▸ hle)
  · obtain ⟨s, hcheck, -, -, -, hpublish⟩ :=
      check_roomy (Nat.succ_pos 1023) (Nat.succ_pos 99) (Nat.succ_pos 1001)
        (Number.Word.count 64 - 1)
    have hlt := (pauses_iff default (Nat.succ_pos 1001) (Number.Word.count 64 - 1)).mp
      (hall _ s hcheck _ _ hpublish default)
    exact absurd hlt (by decide)

end Timelines.Settings
