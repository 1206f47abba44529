import Timelines.Proofs.Cache.Ranking
import Timelines.Proofs.Cache.Wellformed

/-! Refills are not refused without cause.

`fresh_refill_accepted`: a refill with a version that its user was told is accepted as long as the
user's timeline was not written since and the versions of fewer other users than are remembered were
asked for or advanced. Whoever was forgotten before, and however high the floor has risen, does not
matter: the floor is told to those only who are forgotten (`Remembers`). The posts can be read at
once, unless no slice outlives its storing. -/
namespace Timelines.Cache

/-- The user whose version an operation asks for or advances. -/
def Operation.versioned? : Operation → Option UserId
  | .push u _ _ | .invalidate u | .version u | .refill u _ _ => some u
  | _ => none

namespace Versions

/-- A user's version is remembered, and of other users only some were asked for or advanced since
the user was. -/
structure Remembers (others : List UserId) (u : UserId) (version : Nat) (vs : Versions) : Prop where
  recent : vs.current.Recent others u
  found : vs.current.find? u = some version

variable {vs : Versions} {others : List UserId} {u w : UserId} {version capacity : Nat}

theorem Remembers.told_eq (h : Remembers others u version vs) : vs.told u = version := by
  rw [told, h.found, Option.getD_some]

/-- A user who was asked for is remembered. -/
theorem remembers_ask (h : vs.current.keys.Nodup) (others : List UserId) (capacity : Nat)
    (u : UserId) : Remembers others u (vs.ask capacity u).1 (vs.ask capacity u).2 := by
  unfold ask
  split
  next v hv => exact ⟨Recency.recent_use h hv, (Recency.find?_use ..).trans hv⟩
  next => exact ⟨Recency.recent_put h capacity _, Recency.find?_put_self ..⟩

section Room
variable (hroom : others.dedup.length < capacity)
include hroom

theorem Remembers.track (h : Remembers others u version vs) (hw : w ∈ others) (hne : w ≠ u)
    (v : Nat) : Remembers others u version (vs.track capacity w v) :=
  ⟨h.recent.put (.inr hw) v hroom, (h.recent.find?_put hw hne v hroom).trans h.found⟩

/-- To ask for a version, be it the user's own, changes nothing. -/
theorem Remembers.ask (h : Remembers others u version vs) (hw : w = u ∨ w ∈ others) :
    Remembers others u version (vs.ask capacity w).2 := by
  unfold Versions.ask
  split
  next => exact ⟨h.recent.use hw, (Recency.find?_use ..).trans h.found⟩
  next hn =>
    have hne : w ≠ u := by
      rintro rfl
      rw [h.found] at hn
      cases hn
    exact h.track hroom (hw.resolve_left hne) hne _

theorem Remembers.advance (h : Remembers others u version vs) (hw : w ∈ others) (hne : w ≠ u) :
    Remembers others u version (vs.advance capacity w) := by
  have hissued : Remembers others u version { vs with lastIssued := vs.lastIssued + 1 } :=
    ⟨h.recent, h.found⟩
  exact hissued.track hroom hw hne _

end Room
end Versions

namespace Store
open Versions (Remembers)

variable {s : Store} {others : List UserId} {u : UserId} {version : Nat}

theorem remembers_after (h : Remembers others u version s.versions) (now : Nat) {o : Operation}
    (hw : o.written? ≠ some u) (ho : ∀ w, o.versioned? = some w → w ≠ u → w ∈ others)
    (hroom : others.dedup.length < s.config.users) :
    Remembers others u version (s.after now o).versions := by
  rw [versions_after]
  cases o with
  | push w p maxLength =>
    have hne : w ≠ u := fun he => hw (congrArg some he)
    exact h.advance hroom (ho w rfl hne) hne
  | invalidate w =>
    have hne : w ≠ u := fun he => hw (congrArg some he)
    exact h.advance hroom (ho w rfl hne) hne
  | version w => exact h.ask hroom (or_iff_not_imp_left.mpr (ho w rfl))
  | refill w posts v => exact h.ask hroom (or_iff_not_imp_left.mpr (ho w rfl))
  | _ => exact h

theorem remembers_run (h : Remembers others u version s.versions) (os : List (Nat × Operation))
    (hw : ∀ o ∈ os, o.2.written? ≠ some u)
    (hos : ∀ o ∈ os, ∀ w, o.2.versioned? = some w → w ≠ u → w ∈ others)
    (hroom : others.dedup.length < s.config.users) :
    Remembers others u version (s.run os).versions := by
  induction os generalizing s with
  | nil => exact h
  | cons o rest ih =>
    have hfirst := remembers_after h o.1 (hw o (List.mem_cons_self ..))
      (hos o (List.mem_cons_self ..)) hroom
    refine ih hfirst (fun o' ho => hw o' (List.mem_cons_of_mem _ ho))
      (fun o' ho => hos o' (List.mem_cons_of_mem _ ho)) ?_
    rw [config_after]
    exact hroom

/-- Posts that were stored can be read at once, unless slices are too old from the start. -/
theorem get_store (s : Store) (now : Nat) (u : UserId) (posts : List Post)
    (h : s.config.ttl ≠ some 0) :
    ((s.store now u posts).get now u).1 =
      some ((Post.newestFirst posts).take s.config.entries) := by
  let slice : Slice := ⟨(Post.newestFirst posts).take s.config.entries, now⟩
  have hfind : (s.store now u posts).slices.find? u = some slice := Recency.find?_put_self ..
  have hfresh : (s.store now u posts).expired now slice = false := by
    unfold expired
    split
    next ttl httl =>
      have hpos : ttl ≠ 0 := by
        rintro rfl
        exact h httl
      rw [Nat.sub_self, decide_eq_false_iff_not]
      omega
    next => rfl
  have hsorted : slice.posts.Pairwise fun a b => a.notOlder b :=
    Post.pairwise_take_newestFirst posts _
  unfold get
  rw [hfind]
  simp only [hfresh, Bool.false_eq_true, if_false, Post.newestFirst_of_pairwise hsorted]
  rfl

/-- **A refill is not refused without cause.** Whatever came before the user's version was asked
for: if the user's timeline was not written between that and the refill, and the versions of fewer
other users were asked for or advanced than are remembered, then the refill is accepted. The posts
are read at once as they were stored, the newest first. -/
theorem fresh_refill_accepted (config : Config) (before later : List (Nat × Operation)) (u : UserId)
    (posts : List Post) (now : Nat) (hw : ∀ o ∈ later, o.2.written? ≠ some u)
    (hroom : ((later.filterMap (·.2.versioned?)).filter (· ≠ u)).dedup.length <
      max 1 config.maxUsers) :
    let asked := ((create config).run before).version u
    let refilled := (asked.2.run later).refill now u posts asked.1
    refilled.1 = true ∧
      (config.ttl ≠ some 0 → (refilled.2.get now u).1 =
        some ((Post.newestFirst posts).take (max 1 config.maxEntries))) := by
  intro asked refilled
  obtain ⟨hconfig, hwell, -⟩ := wellformed_run config before
  have hasked : asked.2.config = config := hconfig
  have hlater : (asked.2.run later).config = config := (config_run ..).trans hasked
  have hstart : Remembers ((later.filterMap (·.2.versioned?)).filter (· ≠ u)) u asked.1
      asked.2.versions := Versions.remembers_ask hwell.versions_nodup ..
  have hlast := remembers_run hstart later hw
    (fun o ho w hv hne => List.mem_filter.mpr
      ⟨List.mem_filterMap.mpr ⟨o, ho, hv⟩, decide_eq_true hne⟩)
    (by rw [hasked]; exact hroom)
  have hrefilled : refilled = (true, ((asked.2.run later).version u).2.store now u posts) :=
    refill_of_told_eq _ now u posts hlast.told_eq
  rw [hrefilled]
  refine ⟨rfl, fun httl => ?_⟩
  have hc : ((asked.2.run later).version u).2.config = config := hlater
  rw [get_store _ now u posts (by rw [hc]; exact httl), hc]
  rfl

/-- A cache for two users, in which bob's version is the floor that carol's and dave's writes left.
Erin's version is asked for, carol's timeline is stored and bob refused with another version; then
bob's refill comes, and the higher id of two posts of one instant is read. -/
theorem fresh_refill_accepted_above_floor :
    let bob : UserId := ⟨"bob"⟩
    let carol : UserId := ⟨"carol"⟩
    let dave : UserId := ⟨"dave"⟩
    let low : Post := { (default : Post) with id := ⟨.ofNat 1⟩ }
    let high : Post := { (default : Post) with id := ⟨.ofNat 2⟩ }
    let asked := ((create ⟨2, 1, some 10⟩).run [(0, .invalidate carol), (0, .invalidate dave),
      (0, .version ⟨"erin"⟩)]).version bob
    let refilled := (asked.2.run [(1, .version ⟨"erin"⟩), (1, .set carol [low]),
      (2, .refill bob [low] 7)]).refill 3 bob [low, high] asked.1
    asked.1 = 1 ∧ refilled.1 = true ∧ (refilled.2.get 3 bob).1 = some [high] := by
  intro bob carol dave low high asked refilled
  have hnewest : Post.newestFirst [low, high] = [high, low] :=
    Post.newestFirst_of_perm (by decide) (by decide)
  obtain ⟨haccepted, hread⟩ := fresh_refill_accepted ⟨2, 1, some 10⟩
    [(0, .invalidate carol), (0, .invalidate dave), (0, .version ⟨"erin"⟩)]
    [(1, .version ⟨"erin"⟩), (1, .set carol [low]), (2, .refill bob [low] 7)] bob [low, high] 3
    (by decide) (by decide)
  refine ⟨by decide, haccepted, (hread (by decide)).trans ?_⟩
  rw [hnewest]
  rfl

end Store
end Timelines.Cache
