import Timelines.Proofs.Service.Cancelling

/-! What a call answers whose caller never cancels.

Of all that the peers tell a call, the lookup, the save and, where it is waited for, the
announcement decide what it answers: `verdict` says how, the first of them that fails coming before
the others. `stands_of_watched` carries this along a history. A call that has no result because it
broke did so for its clock, or for a queue that cannot be. -/
namespace Timelines.Service.Create

/-- What the peers and the clock have told a call. -/
structure Heard where
  lookup : Option (Except GraphError Bool) := none
  clock : Option (Option Moment) := none
  save : Option (Except StoreError PostId) := none
  followers : Option (Except GraphError (List UserId)) := none
  publish : Option (Except PublishError Unit) := none

def Heard.turn (a : Heard) : Move → Heard
  | .lookedUp reply => { a with lookup := some reply }
  | .dated moment => { a with clock := some moment }
  | .recorded reply => { a with save := some reply }
  | .resolved reply => { a with followers := some reply }
  | .announced reply => { a with publish := some reply }
  | _ => a

/-- What was told in a history. -/
def heard (ts : List Turn) : Heard := ts.foldl (fun a t => a.turn t.move) {}

/-- The answer of a call whose draft could be made. -/
def ending (policy : PublishPolicy) (a : Heard) : Option (Except Failure PostId) :=
  match a.save with
  | none => none
  | some (.error e) => some (.error (.persistenceFailed e))
  | some (.ok id) =>
    match policy, a.publish with
    | .bestEffort _ _, _ => some (.ok id)
    | .strict, none => none
    | .strict, some (.error e) => some (.error (.publishFailed id e))
    | .strict, some (.ok ()) => some (.ok id)

/-- The answer of a call, by what it was told. -/
def verdict (policy : PublishPolicy) (author : UserId) (content : String) (a : Heard) :
    Option (Except Failure PostId) :=
  match a.lookup with
  | none => none
  | some (.error e) => some (.error (.authorLookupFailed e))
  | some (.ok false) => some (.error (.authorNotFound author.text))
  | some (.ok true) =>
    if content.length = 0 then some (.error (.invalidContent .emptyContent))
    else if 280 < content.length then
      some (.error (.invalidContent (.contentTooLong content.length 280)))
    else ending policy a

/-- There are followers, and the queue to spread a post to them cannot be. -/
def Jammed (c : Config) (a : Heard) : Prop :=
  Fanout.maxQueue < c.bounds.queue ∧ ∃ named, a.followers = some (.ok named) ∧ named ≠ []

/-- The call breaks. -/
def Breaks (c : Config) (a : Heard) : Prop := a.clock = some none ∨ Jammed c a

/-- A draft could be made. -/
structure Allowed (content : String) (a : Heard) : Prop where
  lookup : a.lookup = some (.ok true)
  clock : ∃ moment, a.clock = some (some moment)
  content : checkContent content = .ok ()

/-- A post was recorded. -/
structure Saved (content : String) (a : Heard) (id : PostId) : Prop extends Allowed content a where
  save : a.save = some (.ok id)

/-- What a call was told by each stage. -/
def Stands (c : Config) (author : UserId) (content : String) (a : Heard) : CreateStage → Prop
  | .lookingUp => a = {}
  | .dating => a = { lookup := some (.ok true) }
  | .recording _ => Allowed content a ∧ a.followers = none
  | .resolving post => Saved content a post.id ∧ a.followers = none
  | .spreading _ f => Saved content a f.post.id ∧ ¬Jammed c a
  | .maintaining post .. | .naming post .. => Saved content a post.id ∧ ¬Jammed c a
  | .announcing post .. => Saved content a post.id ∧ ¬Jammed c a ∧ c.publish = .strict
  | .finished r => verdict c.publish author content a = some r ∧ ¬Breaks c a
  | .broken => Breaks c a

variable {c : Config} {author : UserId} {content : String} {a : Heard} {id : PostId}

theorem Allowed.length (h : Allowed content a) : content.length ≠ 0 ∧ ¬280 < content.length := by
  have hc := h.content
  unfold checkContent maxPostLength at hc
  split at hc
  · cases hc
  · split at hc
    · cases hc
    · next h0 h280 => exact ⟨h0, h280⟩

theorem not_breaks (hclock : a.clock ≠ some none) (h : ¬Jammed c a) : ¬Breaks c a := by
  rintro (hc | hj)
  · exact hclock hc
  · exact h hj

theorem not_jammed (h : a.followers = none) : ¬Jammed c a := by
  rintro ⟨-, named, hn, -⟩
  rw [h] at hn
  cases hn

theorem Allowed.not_breaks (h : Allowed content a) (hj : ¬Jammed c a) : ¬Breaks c a := by
  obtain ⟨moment, hm⟩ := h.clock
  exact Create.not_breaks (by simp [hm]) hj

theorem Allowed.verdict_eq (h : Allowed content a) (policy : PublishPolicy) (author : UserId) :
    verdict policy author content a = ending policy a := by
  unfold verdict
  rw [h.lookup]
  dsimp only
  rw [if_neg h.length.1, if_neg h.length.2]

/-- Content that is not allowed is empty or too long. -/
theorem verdict_of_violation {v : Violation} (hv : checkContent content = .error v)
    (policy : PublishPolicy) (author : UserId) (hl : a.lookup = some (.ok true)) :
    verdict policy author content a = some (.error (.invalidContent v)) := by
  unfold verdict
  rw [hl]
  unfold checkContent maxPostLength at hv
  dsimp only
  split at hv
  · next h0 =>
    cases hv
    rw [if_pos h0]
  · next h0 =>
    split at hv
    · next h280 =>
      cases hv
      rw [if_neg h0, if_pos h280]
    · cases hv

/-! ### Along a history -/

variable {before after : CreateStage} {m : Move} {w w' : World}

theorem stands_afterSpread {post : Post} (hs : Saved content a post.id) (hj : ¬Jammed c a)
    (followers : List UserId) (s : Spread) :
    Stands c author content a (afterSpread c post followers s) := by
  unfold afterSpread
  split
  · exact ⟨hs, hj⟩
  · exact ⟨hs, hj⟩

theorem distinct_eq_nil {users : List UserId} : distinct users = [] ↔ users = [] := by
  simp only [List.eq_nil_iff_forall_not_mem, mem_distinct]

/-- What the graph answers tells whether the queue to the followers can be. -/
theorem stands_resolved {post : Post} (h : Stands c author content a (.resolving post))
    (reply : Except GraphError (List UserId)) :
    Stands c author content (a.turn (.resolved reply))
      (afterResolving c post (distinct (reply.toOption.getD []))) := by
  have hs : Saved content (a.turn (.resolved reply)) post.id :=
    ⟨⟨h.1.lookup, h.1.clock, h.1.content⟩, h.1.save⟩
  have hjam : Jammed c (a.turn (.resolved reply)) ↔ Fanout.maxQueue < c.bounds.queue ∧
      distinct (reply.toOption.getD []) ≠ [] := by
    rw [Ne, distinct_eq_nil]
    cases reply <;> simp [Jammed, Heard.turn, Except.toOption]
  unfold afterResolving
  split
  next hnil => exact ⟨hs, fun hj => (hjam.mp hj).2 hnil⟩
  next followers hsome =>
    split
    next hq => exact .inr (hjam.mpr ⟨hq, hsome⟩)
    next hq => exact ⟨hs, fun hj => hq (hjam.mp hj).1⟩

theorem stands_spreadStage {f f' : Fanout} {move : Fanout.Move} (hf : f.step? move = some f')
    (hs : Saved content a f.post.id) (hj : ¬Jammed c a) (followers : List UserId) :
    Stands c author content a (spreadStage c followers f') := by
  rw [← Fanout.post_of_step hf] at hs
  unfold spreadStage
  split
  · exact stands_afterSpread hs hj followers f'.spread
  · exact ⟨hs, hj⟩

theorem stands_announced {post : Post} {n : Nat} {s : Spread} {event : Event}
    (h : Stands c author content a (.announcing post n s event)) {reply : Except PublishError Unit}
    {r : Except Failure PostId} (hr : ending .strict (a.turn (.announced reply)) = some r) :
    Stands c author content (a.turn (.announced reply)) (.finished r) := by
  have hallowed : Allowed content (a.turn (.announced reply)) :=
    ⟨h.1.lookup, h.1.clock, h.1.content⟩
  refine ⟨?_, hallowed.not_breaks h.2.1⟩
  rw [hallowed.verdict_eq, h.2.2, hr]

/-- The clock is asked before the content is checked, but the content alone decides. -/
theorem checkContent_of_make {moment : Moment} {reply : Except Violation Draft}
    (h : Draft.make author content moment = reply) :
    checkContent content = reply.map fun _ => () := by
  subst h
  unfold Draft.make
  cases checkContent content <;> rfl

theorem stands_of_course (h : Stands c author content a before)
    (hh : heeds ⟨author, content, before⟩ false m)
    (hc : Course c author content w before m after w') :
    Stands c author content (a.turn m) after := by
  cases hc with
  | known =>
    subst h
    rfl
  | unknown | notLookedUp e =>
    subst h
    exact ⟨rfl, not_breaks nofun (not_jammed rfl)⟩
  | dated hd =>
    subst h
    exact ⟨⟨rfl, ⟨_, rfl⟩, checkContent_of_make hd⟩, rfl⟩
  | invalid hv =>
    subst h
    exact ⟨verdict_of_violation (checkContent_of_make hv) _ _ rfl,
      not_breaks nofun (not_jammed rfl)⟩
  | undated =>
    subst h
    exact .inl rfl
  | recorded draft hid => exact ⟨⟨⟨h.1.lookup, h.1.clock, h.1.content⟩, rfl⟩, h.2⟩
  | notRecorded draft e =>
    have hallowed : Allowed content (a.turn (.recorded (.error e))) :=
      ⟨h.1.lookup, h.1.clock, h.1.content⟩
    exact ⟨hallowed.verdict_eq _ _, hallowed.not_breaks (not_jammed h.2)⟩
  | resolved post followers => exact stands_resolved h (.ok followers)
  | notResolved post e => exact stands_resolved h (.error e)
  | spread followers hf hmove => exact stands_spreadStage hf h.1 h.2 followers
  | wrote followers hw hu hf => exact stands_spreadStage hf h.1 h.2 followers
  | notWritten followers hf => exact stands_spreadStage hf h.1 h.2 followers
  | maintain => exact h
  | maintained post n s waiting now hu | notMaintained post n s waiting e hu =>
    unfold upkeepStage
    split <;> exact h
  | named post n s correlation hp => exact ⟨h.1, h.2, hp⟩
  | launched post n s correlation hp =>
    refine ⟨?_, h.1.not_breaks h.2⟩
    show verdict c.publish author content a = _
    rw [h.1.verdict_eq, ending, h.1.save, hp]
  | announced post n s event | notAnnounced post n s event e =>
    refine stands_announced h ?_
    simp only [ending, Heard.turn, h.1.save]
  | cancelledLookingUp | cancelledRecording | cancelledAnnouncing => cases hh

theorem breaks_iff {stage : CreateStage} (h : Stands c author content a stage) :
    stage = .broken ↔ Breaks c a := by
  cases stage with
  | broken => exact iff_of_true rfl h
  | lookingUp | dating =>
    subst h
    exact iff_of_false nofun (not_breaks nofun (not_jammed rfl))
  | recording draft | resolving post =>
    exact iff_of_false nofun (h.1.not_breaks (not_jammed h.2))
  | spreading followers f | maintaining post n s waiting running | naming post n s =>
    exact iff_of_false nofun (h.1.not_breaks h.2)
  | announcing post n s event => exact iff_of_false nofun (h.1.not_breaks h.2.1)
  | finished r => exact iff_of_false nofun h.2

variable {ts : List Turn} {call : Create}

theorem heard_snoc (t : Turn) : heard (ts ++ [t]) = (heard ts).turn t.move := by
  rw [heard, List.foldl_append]
  rfl

/-- A caller who has not cancelled by now never has. -/
theorem Watched.induction_uncancelled {P : List Turn → Create → Prop}
    (h : Watched c author content ts false call) (start : P [] (.start author content))
    (turn : ∀ {ts call next m w w'}, Watched c author content ts false call → P ts call →
      call.heeds false m → (machine c).Step call w m next w' → P (ts ++ [⟨call, m, w, w'⟩]) next) :
    P ts call := by
  generalize hb : false = cancelled at h
  induction h with
  | start => exact start
  | cancel => cases hb
  | turn hr hh hs ih =>
    subst hb
    exact turn hr (ih rfl) hh hs

theorem stands_of_watched (h : Watched c author content ts false call) :
    Stands c author content (heard ts) call.stage := by
  refine h.induction_uncancelled (P := fun ts call => Stands c author content (heard ts) call.stage)
    rfl fun hr ih hh hs => ?_
  obtain ⟨hcall, hc⟩ := course_of_run hr.run hs
  rw [heard_snoc]
  rw [hcall] at hh
  exact stands_of_course ih hh hc

theorem verdict_of_result (h : Watched c author content ts false call)
    {r : Except Failure PostId} (hr : call.result? = some r) :
    verdict c.publish author content (heard ts) = some r := by
  have hs := stands_of_watched h
  rw [stage_of_result hr] at hs
  exact hs.1

/-! ### Two histories -/

/-- Where both were told something that counts, it is the same. -/
structure Agree (policy : PublishPolicy) (a b : Heard) : Prop where
  lookup : ∀ x ∈ a.lookup, ∀ y ∈ b.lookup, x = y
  save : ∀ x ∈ a.save, ∀ y ∈ b.save, x = y
  publish : policy = .strict → ∀ x ∈ a.publish, ∀ y ∈ b.publish, x = y

theorem eq_of_agree {α : Type} {x y : Option α} (h : ∀ u ∈ x, ∀ v ∈ y, u = v) (hx : x ≠ none)
    (hy : y ≠ none) : x = y := by
  obtain ⟨u, rfl⟩ := Option.ne_none_iff_exists'.mp hx
  obtain ⟨v, rfl⟩ := Option.ne_none_iff_exists'.mp hy
  rw [h u rfl v rfl]

theorem Agree.ending_eq {policy : PublishPolicy} {b : Heard} (h : Agree policy a b)
    {r r' : Except Failure PostId} (ha : ending policy a = some r)
    (hb : ending policy b = some r') : r = r' := by
  have hsave : a.save = b.save := eq_of_agree h.save
    (fun hn => by simp [ending, hn] at ha) (fun hn => by simp [ending, hn] at hb)
  unfold ending at ha hb
  rw [hsave] at ha
  cases hs : b.save with
  | none => simp [hs] at hb
  | some reply =>
    rw [hs] at ha hb
    cases reply with
    | error e => exact Option.some.inj (ha.symm.trans hb)
    | ok id =>
      cases policy with
      | bestEffort attempts backoff => exact Option.some.inj (ha.symm.trans hb)
      | strict =>
        have hpublish : a.publish = b.publish := eq_of_agree (h.publish rfl)
          (fun hn => by simp [hn] at ha) (fun hn => by simp [hn] at hb)
        rw [hpublish] at ha
        exact Option.some.inj (ha.symm.trans hb)

theorem Agree.verdict_eq {policy : PublishPolicy} {b : Heard} (h : Agree policy a b)
    {r r' : Except Failure PostId} (ha : verdict policy author content a = some r)
    (hb : verdict policy author content b = some r') : r = r' := by
  have hlookup : a.lookup = b.lookup := eq_of_agree h.lookup
    (fun hn => by simp [verdict, hn] at ha) (fun hn => by simp [verdict, hn] at hb)
  unfold verdict at ha hb
  rw [hlookup] at ha
  cases hl : b.lookup with
  | none => simp [hl] at hb
  | some reply =>
    rw [hl] at ha hb
    match reply with
    | .error e | .ok false => exact Option.some.inj (ha.symm.trans hb)
    | .ok true =>
      dsimp only at ha hb
      by_cases hempty : content.length = 0
      · rw [if_pos hempty] at ha hb
        exact Option.some.inj (ha.symm.trans hb)
      · rw [if_neg hempty] at ha hb
        by_cases hlong : 280 < content.length
        · rw [if_pos hlong] at ha hb
          exact Option.some.inj (ha.symm.trans hb)
        · rw [if_neg hlong] at ha hb
          exact h.ending_eq ha hb

end Timelines.Service.Create
