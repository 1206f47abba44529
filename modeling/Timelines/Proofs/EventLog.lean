import Mathlib.Algebra.GroupWithZero.Nat
import Mathlib.Logic.Relation
import Mathlib.Order.Bounds.Defs
import Timelines.Program.Run

/-! The account that the log keeps of the events that are published in the process.

Whoever holds the publisher sends events on its channel, and the log receives from it, one thing at
a time and whenever it comes to it: any number of events may be sent between, and the channel keeps
only the last ones. `Session` is such a program, with what was published and what was noted.

`accounts_of_steps`: whatever the capacity and however the two take turns, what was noted tells, one
after the other, of all events up to the one that is received next. Each of them was either noted or
counted as missed, so that only those are unaccounted for that are still to be received; and the log
listens until there is nothing left to be published or to receive. -/
namespace Timelines

/-! ### The channel -/

namespace Ring
variable {r : Ring} {next : Nat}

/-- The room that is asked for is rounded up to a power of two, and no further. -/
theorem isLeast_roundUp (n : Nat) : IsLeast {c | n ≤ c ∧ ∃ k, c = 2 ^ k} (roundUp n) := by
  constructor
  · refine ⟨le_roundUp n, ?_⟩
    unfold roundUp
    split
    · exact ⟨0, rfl⟩
    · exact ⟨_, rfl⟩
  · rintro c ⟨hc, k, rfl⟩
    unfold roundUp
    split
    next => exact Nat.one_le_two_pow
    next hn =>
      have hlog : Nat.log2 (n - 1) < k := (Nat.log2_lt (by omega)).mpr (by omega)
      exact Nat.pow_le_pow_right (by decide) hlog

theorem roundUp_pos (n : Nat) : 0 < roundUp n := by
  obtain ⟨-, k, hk⟩ := (isLeast_roundUp n).1
  exact hk ▸ Nat.two_pow_pos k

/-- What is received is the next event, or the word of how many were lost before the oldest that is
kept, or nothing when all were received. -/
theorem receive_cases (r : Ring) {next : Nat} (h : next ≤ r.tail) :
    (∃ e, r.sent[next]? = some e ∧ r.receive next = (.event e, next + 1)) ∨
      (∃ lost, 0 < lost ∧ next + lost + r.capacity = r.tail ∧
        r.receive next = (.lagged lost, next + lost)) ∨
      (next = r.tail ∧ r.receive next = (.empty, next)) := by
  unfold receive
  split
  next hlag =>
    refine .inr (.inl ⟨r.tail - r.capacity - next, by omega, by omega, ?_⟩)
    rw [show next + (r.tail - r.capacity - next) = r.tail - r.capacity by omega]
  next =>
    rcases Nat.lt_or_eq_of_le h with hlt | heq
    · obtain ⟨e, hget⟩ : ∃ e, r.sent[next]? = some e :=
        ⟨_, Array.getElem?_eq_getElem (show next < r.sent.size from hlt)⟩
      exact .inl ⟨e, hget, by rw [hget]⟩
    · have hget : r.sent[next]? = none := Array.getElem?_eq_none (Nat.le_of_eq heq.symm)
      exact .inr (.inr ⟨heq, by rw [hget]⟩)

/-- Whoever has lost some goes on with the oldest event that is kept. -/
theorem receive_after_lag {lost : Nat} (hroom : 0 < r.capacity)
    (h : next + lost + r.capacity = r.tail) :
    ∃ e, r.sent[next + lost]? = some e ∧
      r.receive (next + lost) = (.event e, next + lost + 1) := by
  have hle : next + lost ≤ r.tail := by omega
  rcases r.receive_cases hle with hevent | hlag | hempty
  · exact hevent
  · obtain ⟨more, hmore, hsum, -⟩ := hlag
    omega
  · have := hempty.1
    omega

end Ring

namespace EventLog
open Report Simulation

/-! ### What the lines of the log tell -/

/-- The line that notes an event. -/
def noticeOf (e : Event) : Notice := .eventLogged e.kind e.post.id e.post.author

def noted (notices : List Notice) : List Notice := notices.filter (· matches .eventLogged ..)

/-- How many events were missed, by a line. -/
def skipped : Notice → Nat
  | .eventsMissed n => n
  | _ => 0

def missed (notices : List Notice) : Nat := (notices.map skipped).sum

/-- Lines that tell, one after the other, of all events between two numbers. -/
inductive Tells (sent : List Event) : Nat → List Notice → Nat → Prop
  | nothing (a : Nat) : Tells sent a [] a
  | event {a b : Nat} {e : Event} {notices : List Notice} :
      sent[a]? = some e → Tells sent (a + 1) notices b → Tells sent a (noticeOf e :: notices) b
  | gap {a b lost : Nat} {notices : List Notice} :
      0 < lost → Tells sent (a + lost) notices b → Tells sent a (.eventsMissed lost :: notices) b

namespace Tells
variable {sent : List Event} {a b c : Nat} {xs ys : List Notice}

theorem append (hxs : Tells sent a xs b) (hys : Tells sent b ys c) :
    Tells sent a (xs ++ ys) c := by
  induction hxs with
  | nothing a => exact hys
  | event he _ ih => exact .event he (ih hys)
  | gap hlost _ ih => exact .gap hlost (ih hys)

theorem exists_of_append (h : Tells sent a (xs ++ ys) c) :
    ∃ b, Tells sent a xs b ∧ Tells sent b ys c := by
  induction xs generalizing a with
  | nil => exact ⟨a, .nothing a, h⟩
  | cons x xs ih =>
    cases h with
    | event he hrest =>
      obtain ⟨b, hxs, hys⟩ := ih hrest
      exact ⟨b, .event he hxs, hys⟩
    | gap hlost hrest =>
      obtain ⟨b, hxs, hys⟩ := ih hrest
      exact ⟨b, .gap hlost hxs, hys⟩

/-- Of what is sent later they tell nothing. -/
theorem sent_append (h : Tells sent a xs b) (more : List Event) :
    Tells (sent ++ more) a xs b := by
  induction h with
  | nothing a => exact .nothing a
  | event he _ ih =>
    have hlt := (List.getElem?_eq_some_iff.mp he).1
    exact .event ((List.getElem?_append_left hlt).trans he) ih
  | gap hlost _ ih => exact .gap hlost ih

/-- Every event that they tell of was either noted or missed. -/
theorem total (h : Tells sent a xs b) : a + (noted xs).length + missed xs = b := by
  induction h with
  | nothing a => rfl
  | event _ _ ih =>
    simp only [noted, missed, noticeOf, List.filter_cons, List.map_cons, List.sum_cons, skipped,
      if_true, List.length_cons] at ih ⊢
    omega
  | gap _ _ ih =>
    simp only [noted, missed, List.filter_cons, List.map_cons, List.sum_cons, skipped,
      Bool.false_eq_true, if_false] at ih ⊢
    omega

theorem le (h : Tells sent a xs b) : a ≤ b := by
  have := h.total
  omega

/-- Those that were noted are among the events that they tell of, in their order and each once. -/
theorem sublist (h : Tells sent a xs b) :
    (noted xs).Sublist (((sent.take b).drop a).map noticeOf) := by
  induction h with
  | nothing a => exact List.nil_sublist _
  | @event a b e xs he hrest ih =>
    have hget : (sent.take b)[a]? = some e := by
      rw [List.getElem?_take_of_lt (show a < b from hrest.le), he]
    obtain ⟨hlt, rfl⟩ := List.getElem?_eq_some_iff.mp hget
    rw [List.drop_eq_getElem_cons hlt, List.map_cons]
    exact ih.cons_cons _
  | @gap a b lost xs _ _ ih =>
    rw [← List.drop_drop] at ih
    exact ih.trans ((List.drop_sublist _ _).map _)

/-- No event is noted on the wrong side of the word that some were missed. -/
theorem sublist_around {lost : Nat} (h : Tells sent 0 (xs ++ .eventsMissed lost :: ys) c) :
    let first := (noted xs).length + missed xs
    0 < lost ∧ (noted xs).Sublist ((sent.take first).map noticeOf) ∧
      (noted ys).Sublist ((sent.drop (first + lost)).map noticeOf) := by
  obtain ⟨b, hxs, hrest⟩ := h.exists_of_append
  have hb := hxs.total
  rw [Nat.zero_add] at hb
  cases hrest with
  | gap hlost hys =>
    refine ⟨hlost, ?_, ?_⟩
    · rw [hb]
      exact hxs.sublist
    · rw [hb]
      exact hys.sublist.trans (((List.take_sublist _ _).drop _).map _)

end Tells

/-! ### Receiving -/

variable {log : EventLog}

/-- How many events the log has yet to receive, or to be told that it missed them. -/
def pending (log : EventLog) : Nat := log.ring.tail - log.next

/-- The log is at a number that the channel has come to. -/
structure Sound (log : EventLog) : Prop where
  behind : log.next ≤ log.ring.tail
  room : 0 < log.ring.capacity

theorem receive_cases (h : log.Sound) :
    (∃ e, log.ring.sent[log.next]? = some e ∧
        log.receive = (some (noticeOf e), { log with next := log.next + 1 })) ∨
      (∃ lost, 0 < lost ∧ log.next + lost + log.ring.capacity = log.ring.tail ∧
        log.receive = (some (.eventsMissed lost), { log with next := log.next + lost })) ∨
      (log.pending = 0 ∧ log.receive = (none, log)) := by
  unfold receive
  rcases log.ring.receive_cases h.behind with hevent | hlag | hempty
  · obtain ⟨e, he, hr⟩ := hevent
    exact .inl ⟨e, he, by rw [hr]; rfl⟩
  · obtain ⟨lost, hlost, hsum, hr⟩ := hlag
    exact .inr (.inl ⟨lost, hlost, hsum, by rw [hr]; rfl⟩)
  · obtain ⟨hnext, hr⟩ := hempty
    exact .inr (.inr ⟨Nat.sub_eq_zero_of_le (Nat.le_of_eq hnext.symm), by rw [hr]; rfl⟩)

theorem receiveMany_some {after : EventLog} {notice : Notice}
    (h : log.receive = (some notice, after)) (times : Nat) :
    log.receiveMany (times + 1) =
      (notice :: (after.receiveMany times).1, (after.receiveMany times).2) := by
  simp only [receiveMany, h]

theorem receiveMany_none {after : EventLog} (h : log.receive = (none, after)) (times : Nat) :
    log.receiveMany (times + 1) = ([], after) := by
  simp only [receiveMany, h]

/-- Receiving many times leaves the channel as it is, and what is noted tells of all events up to
the one that comes next. If so many times are enough for all there is, nothing is left. -/
theorem receiveMany_spec (h : log.Sound) (times : Nat) :
    let (notices, after) := log.receiveMany times
    after.ring = log.ring ∧ after.Sound ∧
      Tells log.ring.sent.toList log.next notices after.next ∧
      (log.pending ≤ times → after.pending = 0) := by
  induction times generalizing log with
  | zero => exact ⟨rfl, h, .nothing _, Nat.eq_zero_of_le_zero⟩
  | succ times ih =>
    rcases receive_cases h with hevent | hlag | hempty
    · obtain ⟨e, he, hr⟩ := hevent
      have hlt : log.next < log.ring.tail := (Array.getElem?_eq_some_iff.mp he).1
      have hnext : Sound { log with next := log.next + 1 } := ⟨hlt, h.room⟩
      obtain ⟨hring, hsound, htells, hleft⟩ := ih hnext
      rw [receiveMany_some hr]
      refine ⟨hring, hsound, .event (by rw [Array.getElem?_toList]; exact he) htells, fun hle => ?_⟩
      refine hleft ?_
      unfold pending at hle ⊢
      dsimp only at hle ⊢
      omega
    · obtain ⟨lost, hlost, hsum, hr⟩ := hlag
      have hnext : Sound { log with next := log.next + lost } :=
        ⟨by dsimp only; omega, h.room⟩
      obtain ⟨hring, hsound, htells, hleft⟩ := ih hnext
      rw [receiveMany_some hr]
      refine ⟨hring, hsound, .gap hlost htells, fun hle => ?_⟩
      refine hleft ?_
      unfold pending at hle ⊢
      dsimp only at hle ⊢
      omega
    · obtain ⟨hnone, hr⟩ := hempty
      rw [receiveMany_none hr]
      exact ⟨rfl, h, .nothing _, fun _ => hnone⟩

theorem pending_catchUp (h : log.Sound) : log.catchUp.2.pending = 0 :=
  (receiveMany_spec h _).2.2.2 (Nat.le_succ _)

/-! ### A session -/

/-- A program that publishes on a channel, and the log that listens to it. -/
structure Session where
  network : Network
  /-- Someone still holds the publisher. -/
  held : Bool
  listening : Bool
  /-- The events that were published, with the answers to them. -/
  published : List Event
  answers : List (Except PublishError Unit)
  /-- The lines of the log. -/
  notices : List Notice

namespace Session

def start (n : Network) : Session := ⟨n, true, true, [], [], []⟩

def publish (s : Session) (e : Event) (reply : Http.Reply) : Session :=
  { s with
    network := (s.network.publish e reply).2
    published := s.published ++ [e]
    answers := s.answers ++ [(s.network.publish e reply).1] }

/-- The session after the log has heard something. -/
def noting (s : Session) (heard : List Notice × EventLog) : Session :=
  { s with
    network := { s.network with publisher := .channel heard.2 }
    notices := s.notices ++ heard.1 }

/-- The log receives once. If there is nothing to receive it waits, and it ends when nothing can
come any more. -/
def hear (s : Session) : Session :=
  match s.network.publisher with
  | .webhook _ => s
  | .channel log =>
    match log.receive with
    | (some notice, log) => s.noting ([notice], log)
    | (none, _) => if s.held then s else { s with listening := false }

/-- The steps of a session, in any order. -/
inductive Step : Session → Session → Prop
  | publish {s : Session} (e : Event) (reply : Http.Reply) :
      s.held = true → Step s (s.publish e reply)
  /-- The last who held the publisher lets go of it. -/
  | release (s : Session) : Step s { s with held := false }
  | hear {s : Session} : s.listening = true → Step s s.hear
  /-- The program does something else. -/
  | elsewhere {s : Session} (n : Network) :
      n.publisher = s.network.publisher → Step s { s with network := n }

abbrev Steps : Session → Session → Prop := Relation.ReflTransGen Step

/-- What holds of a session at every moment, with the log as it is by then. -/
structure Invariant (capacity : Nat) (s : Session) (log : EventLog) : Prop where
  channel : s.network.publisher = .channel log
  rounded : log.ring.capacity = Ring.roundUp capacity
  sent : log.ring.sent.toList = s.published
  sound : log.Sound
  answered : s.answers = s.published.map fun _ => .ok ()
  tells : Tells s.published 0 s.notices log.next
  ended : s.listening = false → s.held = false ∧ log.pending = 0

variable {capacity : Nat} {s s' : Session}

theorem noting_nil (h : s.network.publisher = .channel log) : s.noting ([], log) = s := by
  simp only [noting, ← h, List.append_nil]

theorem noting_noting (s : Session) (first second : List Notice × EventLog) :
    (s.noting first).noting second = s.noting (first.1 ++ second.1, second.2) := by
  simp only [noting, List.append_assoc]

theorem hear_some {after : EventLog} {notice : Notice} (h : s.network.publisher = .channel log)
    (hr : log.receive = (some notice, after)) : s.hear = s.noting ([notice], after) := by
  simp only [hear, h, hr]

theorem hear_none {after : EventLog} (h : s.network.publisher = .channel log)
    (hr : log.receive = (none, after)) :
    s.hear = if s.held then s else { s with listening := false } := by
  simp only [hear, h, hr]

namespace Invariant

theorem start {capacity : Nat} (h : EventLog.open? capacity = some log) (n : Network) :
    Invariant capacity (.start { n with publisher := .channel log }) log := by
  unfold open? Ring.create? at h
  split at h
  · cases h
  · cases h
    exact {
      channel := rfl
      rounded := rfl
      sent := rfl
      sound := ⟨Nat.le_refl _, Ring.roundUp_pos capacity⟩
      answered := rfl
      tells := .nothing 0
      ended := nofun }

theorem publish (h : Invariant capacity s log) (e : Event) (reply : Http.Reply)
    (hheld : s.held = true) : Invariant capacity (s.publish e reply) (log.publish e) := by
  have hanswer : s.network.publish e reply =
      (.ok (), { s.network with publisher := .channel (log.publish e) }) := by
    simp only [Network.publish, h.channel]
  constructor
  case channel => simp only [Session.publish, hanswer]
  case rounded => exact h.rounded
  case sent =>
    simp only [EventLog.publish, Ring.send, Array.toList_push, h.sent]
    rfl
  case sound =>
    refine ⟨?_, h.sound.room⟩
    have := h.sound.behind
    simp only [EventLog.publish, Ring.tail_send]
    omega
  case answered =>
    simp only [Session.publish, hanswer, h.answered, List.map_append, List.map_cons, List.map_nil]
  case tells => exact h.tells.sent_append [e]
  case ended =>
    intro hended
    exact absurd hheld (Bool.eq_false_iff.mp (h.ended hended).1)

/-- The log may receive any number of times. -/
theorem noting (h : Invariant capacity s log) (hl : s.listening = true) (times : Nat) :
    Invariant capacity (s.noting (log.receiveMany times)) (log.receiveMany times).2 := by
  obtain ⟨hring, hsound, htells, -⟩ := receiveMany_spec h.sound times
  rw [h.sent] at htells
  exact {
    channel := rfl
    rounded := hring ▸ h.rounded
    sent := hring ▸ h.sent
    sound := hsound
    answered := h.answered
    tells := h.tells.append htells
    ended := fun hended => absurd hl (Bool.eq_false_iff.mp hended) }

theorem hear (h : Invariant capacity s log) (hl : s.listening = true) :
    ∃ log', Invariant capacity s.hear log' := by
  have hsome {notice : Notice} {after : EventLog} (hr : log.receive = (some notice, after)) :
      Invariant capacity s.hear after := by
    rw [hear_some h.channel hr]
    have hnoting := h.noting hl 1
    rwa [receiveMany_some hr] at hnoting
  rcases receive_cases h.sound with ⟨e, -, hr⟩ | ⟨lost, -, -, hr⟩ | ⟨hnone, hr⟩
  · exact ⟨_, hsome hr⟩
  · exact ⟨_, hsome hr⟩
  · rw [hear_none h.channel hr]
    cases hheld : s.held with
    | true => exact ⟨log, h⟩
    | false => exact ⟨log, { h with ended := fun _ => ⟨rfl, hnone⟩ }⟩

theorem step (h : Invariant capacity s log) (hs : Step s s') :
    ∃ log', Invariant capacity s' log' := by
  cases hs with
  | publish e reply hheld => exact ⟨_, h.publish e reply hheld⟩
  | release => exact ⟨log, { h with ended := fun hended => ⟨rfl, (h.ended hended).2⟩ }⟩
  | hear hl => exact h.hear hl
  | elsewhere n hn => exact ⟨log, { h with channel := hn.trans h.channel }⟩

theorem steps (h : Invariant capacity s log) (hs : Steps s s') :
    ∃ log', Invariant capacity s' log' := by
  induction hs with
  | refl => exact ⟨log, h⟩
  | tail _ hstep ih =>
    obtain ⟨log', h'⟩ := ih
    exact h'.step hstep

/-- A log that listens may receive many times in a row. -/
theorem steps_receiveMany (h : Invariant capacity s log) (hl : s.listening = true)
    (times : Nat) : Steps s (s.noting (log.receiveMany times)) := by
  induction times generalizing s log with
  | zero =>
    unfold receiveMany
    rw [noting_nil h.channel]
  | succ times ih =>
    have hsome {notice : Notice} {after : EventLog} (hr : log.receive = (some notice, after)) :
        Steps s (s.noting (log.receiveMany (times + 1))) := by
      have hone := h.noting hl 1
      rw [receiveMany_some hr] at hone ⊢
      have hrest := ih hone hl
      rw [noting_noting] at hrest
      have hstep := Step.hear hl
      rw [hear_some h.channel hr] at hstep
      exact .head hstep hrest
    rcases receive_cases h.sound with ⟨e, -, hr⟩ | ⟨lost, -, -, hr⟩ | ⟨-, hr⟩
    · exact hsome hr
    · exact hsome hr
    · rw [receiveMany_none hr, noting_nil h.channel]

theorem tail_eq (h : Invariant capacity s log) : log.ring.tail = s.published.length := by
  rw [← h.sent, Array.length_toList]
  rfl

theorem total (h : Invariant capacity s log) :
    (noted s.notices).length + missed s.notices + log.pending = s.published.length := by
  have htotal := h.tells.total
  have hbehind := h.sound.behind
  have htail := h.tail_eq
  unfold pending
  omega

/-- A lag ends nothing: the next that is received is the oldest event kept. -/
theorem hear_lag (h : Invariant capacity s log) {lost : Nat} {after : EventLog}
    (hlag : log.receive = (some (.eventsMissed lost), after)) :
    s.hear.listening = s.listening ∧
      ∃ e, s.published[s.published.length - log.ring.capacity]? = some e ∧
        s.hear.hear.notices = s.notices ++ [.eventsMissed lost, noticeOf e] := by
  have hhear := hear_some h.channel hlag
  refine ⟨by rw [hhear]; rfl, ?_⟩
  rcases receive_cases h.sound with ⟨e, -, hr⟩ | ⟨lost', -, hsum, hr⟩ | ⟨-, hr⟩
  · cases hlag.symm.trans hr
  · cases hlag.symm.trans hr
    obtain ⟨e, he, hnext⟩ := Ring.receive_after_lag h.sound.room hsum
    have holdest : s.published.length - log.ring.capacity = log.next + lost := by
      rw [← h.tail_eq]
      omega
    refine ⟨e, ?_, ?_⟩
    · rw [holdest, ← h.sent, Array.getElem?_toList]
      exact he
    · have hreceive : EventLog.receive { log with next := log.next + lost } =
          (some (noticeOf e), { log with next := log.next + lost + 1 }) := by
        unfold receive
        rw [hnext]
        rfl
      have hchannel : s.hear.network.publisher =
          .channel { log with next := log.next + lost } := by rw [hhear]; rfl
      rw [hear_some hchannel hreceive, hhear, noting_noting]
      rfl
  · cases hlag.symm.trans hr

end Invariant

/-- The account of a session at one moment, with the log as it is by then. -/
structure Accounts (capacity : Nat) (s : Session) (log : EventLog) : Prop where
  channel : s.network.publisher = .channel log
  rounded : IsLeast {c | capacity ≤ c ∧ ∃ k, c = 2 ^ k} log.ring.capacity
  /-- What was noted are published events in their order, each once. -/
  inOrder : (noted s.notices).Sublist (s.published.map noticeOf)
  /-- Every event was noted, or missed, or is still to come. -/
  total : (noted s.notices).length + missed s.notices + log.pending = s.published.length
  /-- What was noted before a lag was published before the events that were missed, and what was
  noted after it was published after them. -/
  around : ∀ before lost after, s.notices = before ++ .eventsMissed lost :: after →
    let first := (noted before).length + missed before
    0 < lost ∧ (noted before).Sublist ((s.published.take first).map noticeOf) ∧
      (noted after).Sublist ((s.published.drop (first + lost)).map noticeOf)
  /-- A lag ends nothing, and the oldest event kept comes next. -/
  lagged : ∀ lost after, log.receive = (some (.eventsMissed lost), after) →
    s.hear.listening = s.listening ∧
      ∃ e, s.published[s.published.length - log.ring.capacity]? = some e ∧
        s.hear.hear.notices = s.notices ++ [.eventsMissed lost, noticeOf e]
  /-- The log ends only when no event is left and none can come. -/
  ended : s.listening = false → s.held = false ∧ log.pending = 0
  /-- Until then it can catch up with all that was published. -/
  catchesUp : s.listening = true →
    ∃ s', Steps s s' ∧ s'.listening = true ∧ s'.published = s.published ∧
      (noted s'.notices).length + missed s'.notices = s.published.length
  answered : s.answers = s.published.map fun _ => .ok ()

theorem Invariant.accounts (h : Invariant capacity s log) : Accounts capacity s log where
  channel := h.channel
  rounded := h.rounded ▸ Ring.isLeast_roundUp capacity
  inOrder := h.tells.sublist.trans ((List.take_sublist _ _).map _)
  total := h.total
  around := by
    intro before lost after heq
    have htells := h.tells
    rw [heq] at htells
    exact htells.sublist_around
  lagged := fun _ _ hlag => h.hear_lag hlag
  ended := h.ended
  catchesUp := by
    intro hl
    have hcaught := h.noting hl (log.ring.tail - log.next + 1)
    have htotal := hcaught.total
    have hnone := pending_catchUp h.sound
    unfold catchUp at hnone
    rw [hnone, Nat.add_zero] at htotal
    exact ⟨_, h.steps_receiveMany hl _, hl, rfl, htotal⟩
  answered := h.answered

/-- Whatever the capacity and however publishing and receiving take turns, the log accounts for
every event that was published. -/
theorem accounts_of_steps {events : Settings.Events} {opened : EventLog}
    (hopen : Program.publisher? events = some (.channel opened)) (n : Network)
    (hs : Steps (start { n with publisher := .channel opened }) s) :
    ∃ log, Accounts events.broadcastCapacity s log := by
  have hlog : EventLog.open? events.broadcastCapacity = some opened := by
    unfold Program.publisher? at hopen
    split at hopen
    · cases hopen
    · obtain ⟨log, hlog, heq⟩ := Option.map_eq_some_iff.mp hopen
      cases heq
      exact hlog
  obtain ⟨log, hlog⟩ := (Invariant.start hlog n).steps hs
  exact ⟨log, hlog.accounts⟩

/-- Two events on a channel that keeps one, of which the log is then told that it missed the first.
-/
theorem accounts_of_two_on_one :
    let events : Settings.Events := ⟨none, 5000, 1⟩
    let opened : EventLog := ⟨⟨1, #[]⟩, 0⟩
    let first : Session := .start { Network.empty with publisher := .channel opened }
    let last := ((first.publish default default).publish default default).hear
    Program.publisher? events = some (.channel opened) ∧ Steps first last ∧
      last.notices = [.eventsMissed 1] ∧ ∃ log, Accounts 1 last log := by
  intro events opened first last
  have hopen : Program.publisher? events = some (.channel opened) := rfl
  have hs : Steps first last :=
    .tail (.tail (.single (.publish _ _ rfl)) (.publish _ _ rfl)) (.hear rfl)
  exact ⟨hopen, hs, rfl, accounts_of_steps hopen Network.empty hs⟩

end Session
end EventLog
end Timelines
