import Timelines.Proofs.Cache.Ranking
import Timelines.Proofs.Cache.Wellformed

/-! Changes of the slices, whatever their posts.

A slice is stored, found by a reader or dropped, all are dropped, or the slices stay as they are
(`Change`). The order in which they were last used, when each was stored, and how many had to make
room follow the changes alone (`follows_change`). So two caches with slices of the same order and
age go through the same changes, but for refills that only one of them accepts (`change_congr`). -/
namespace Timelines.Cache

/-- What an operation does to the slices, whatever their posts. -/
inductive Change
  | stored (user : UserId)
  /-- A reader was given the slice. -/
  | found (user : UserId)
  /-- For its age or for a write. -/
  | dropped (user : UserId)
  | cleared
  | still
  deriving DecidableEq

namespace Change

def stores : Change → Bool
  | .stored _ => true
  | _ => false

/-- The user whose slice counts as used. -/
def used? : Change → Option UserId
  | .stored u | .found u => some u
  | _ => none

/-- The user whose slice it is. -/
def user? : Change → Option UserId
  | .stored u | .found u | .dropped u => some u
  | _ => none

/-- The times at which slices were stored, after a change. -/
def apply (c : Change) (capacity now : Nat) (stamps : Recency UserId Nat) : Recency UserId Nat :=
  match c with
  | .stored u => stamps.put capacity u now
  | .found u => stamps.use u
  | .dropped u => stamps.erase u
  | .cleared => .empty
  | .still => stamps

/-- The user whose slice has to make room. -/
def victim? {ν : Type} (c : Change) (capacity : Nat) (m : Recency UserId ν) : Option UserId :=
  match c with
  | .stored u => (m.victim? capacity u).map (·.1)
  | _ => none

end Change

namespace Store

/-- What an operation does to the slices. -/
def change (s : Store) (now : Nat) : Operation → Change
  | .get u =>
    match s.slices.find? u with
    | some slice => if s.expired now slice then .dropped u else .found u
    | none => .still
  | .set u _ => .stored u
  | .push u _ _ =>
    match s.slices.find? u with
    | some slice => if s.expired now slice then .dropped u else .still
    | none => .still
  | .invalidate u => if (s.slices.find? u).isSome then .dropped u else .still
  | .version _ => .still
  | .refill u _ version => if s.versions.told u = version then .stored u else .still
  | .clear => .cleared

/-- What each of some operations does to the slices. -/
def changes (s : Store) : List (Nat × Operation) → List Change
  | [] => []
  | (now, o) :: rest => s.change now o :: (s.after now o).changes rest

/-- When each slice was stored, in the order of their use. -/
def stamps (s : Store) : Recency UserId Nat := s.slices.map (·.storedAt)

theorem keys_stamps (s : Store) : s.stamps.keys = s.slices.keys := Recency.keys_map ..

/-! ### What follows a change -/

/-- The order of the slices, and the count of those that had to make room, follow the changes
alone. -/
theorem follows_change (s : Store) (now : Nat) (o : Operation) :
    (s.after now o).stamps = (s.change now o).apply s.config.users now s.stamps ∧
      (s.after now o).tally.evictions = s.tally.evictions +
        ((s.change now o).victim? s.config.users s.slices).toList.length := by
  have store (t : Store) (u : UserId) (posts : List Post) :
      (t.store now u posts).stamps = t.stamps.put t.config.users u now ∧
        (t.store now u posts).tally.evictions = t.tally.evictions +
          ((Change.stored u).victim? t.config.users t.slices).toList.length := by
    refine ⟨Recency.map_put .., ?_⟩
    simp only [Store.store, Change.victim?]
    cases t.slices.victim? t.config.users u <;> rfl
  cases o with
  | get u =>
    show (s.get now u).2.stamps = _ ∧ (s.get now u).2.tally.evictions = _
    simp only [get, change]
    cases s.slices.find? u with
    | none => exact ⟨rfl, rfl⟩
    | some slice =>
      by_cases he : s.expired now slice
      · simp only [if_pos he]
        exact ⟨Recency.map_erase .., rfl⟩
      · simp only [if_neg he]
        exact ⟨Recency.map_use .., rfl⟩
  | set u posts => exact store s u posts
  | push u p maxLength =>
    have hslices : (s.advance u).slices = s.slices := rfl
    have hexpired (slice : Slice) : (s.advance u).expired now slice = s.expired now slice := rfl
    show (s.push now u p maxLength).stamps = _ ∧ (s.push now u p maxLength).tally.evictions = _
    simp only [push, change, hslices, hexpired]
    cases s.slices.find? u with
    | none => exact ⟨rfl, rfl⟩
    | some slice =>
      by_cases he : s.expired now slice
      · simp only [if_pos he]
        exact ⟨Recency.map_erase .., rfl⟩
      · simp only [if_neg he]
        split
        · exact ⟨rfl, rfl⟩
        · exact ⟨Recency.map_modify _ _ _ fun _ => rfl, rfl⟩
  | invalidate u =>
    simp only [change]
    split
    next => exact ⟨Recency.map_erase .., rfl⟩
    next hn =>
      have hnone : s.slices.find? u = none := by simpa using hn
      refine ⟨?_, rfl⟩
      show (s.slices.erase u).map (·.storedAt) = s.stamps
      rw [Recency.erase_of_find? hnone]
      rfl
  | version u => exact ⟨rfl, rfl⟩
  | refill u posts version =>
    show (s.refill now u posts version).2.stamps = _ ∧
      (s.refill now u posts version).2.tally.evictions = _
    simp only [change]
    by_cases ht : s.versions.told u = version
    · rw [if_pos ht, refill_of_told_eq s now u posts ht]
      exact store (s.version u).2 u posts
    · rw [if_neg ht, refill_of_told_ne s now u posts ht]
      exact ⟨rfl, rfl⟩
  | clear => exact ⟨rfl, rfl⟩

theorem stamps_after (s : Store) (now : Nat) (o : Operation) :
    (s.after now o).stamps = (s.change now o).apply s.config.users now s.stamps :=
  (follows_change s now o).1

theorem evictions_after (s : Store) (now : Nat) (o : Operation) :
    (s.after now o).tally.evictions = s.tally.evictions +
      ((s.change now o).victim? s.config.users s.slices).toList.length :=
  (follows_change s now o).2

theorem keys_after (s : Store) (now : Nat) (o : Operation) :
    (s.after now o).slices.keys = ((s.change now o).apply s.config.users now s.stamps).keys := by
  rw [← keys_stamps, stamps_after]

section Change
variable {s t : Store} {now : Nat} {o : Operation} {u : UserId}

/-- A change is of the slice of the operation's user, or of all. -/
theorem user?_of_change (h : s.change now o ≠ .still) : o.user? = (s.change now o).user? := by
  cases o with
  | get w => grind [change, Operation.user?, Change.user?]
  | push w p maxLength => grind [change, Operation.user?, Change.user?]
  | invalidate w => grind [change, Operation.user?, Change.user?]
  | refill w posts v => grind [change, Operation.user?, Change.user?]
  | version w => exact absurd rfl h
  | _ => rfl

/-- An operation that stores posts stores them in its user's slice. -/
theorem change_of_stored? {posts : List Post} (h : s.stored? o = some posts)
    (hu : o.user? = some u) : s.change now o = .stored u := by
  cases o with
  | set w _ =>
    cases hu
    rfl
  | refill w _ version =>
    cases hu
    exact if_pos (Option.ite_none_right_eq_some.mp h).1
  | _ => cases h

theorem find?_of_found (h : s.change now o = .found u) :
    ∃ stamp, s.stamps.find? u = some stamp := by
  cases o with
  | get w =>
    simp only [change] at h
    split at h
    next slice hslice =>
      split at h
      · cases h
      · cases h
        exact ⟨slice.storedAt, by rw [stamps, Recency.find?_map, hslice]; rfl⟩
    next => cases h
  | _ => grind [change]

/-- Whether an operation stores a slice is all that the versions can tell of its change. -/
theorem change_congr (hc : s.config = t.config) (hs : s.stamps = t.stamps)
    (h : (s.change now o).stores = (t.change now o).stores) : s.change now o = t.change now o := by
  have hstamp (w : UserId) : (s.slices.find? w).map (·.storedAt) =
      (t.slices.find? w).map (·.storedAt) := by
    rw [← Recency.find?_map, ← Recency.find?_map]
    exact congrArg (·.find? w) hs
  have hexpired {a b : Slice} (hab : a.storedAt = b.storedAt) :
      s.expired now a = t.expired now b := by
    unfold expired
    rw [hc, hab]
  have hfind (w : UserId) : s.slices.find? w = none ∧ t.slices.find? w = none ∨
      ∃ a b, s.slices.find? w = some a ∧ t.slices.find? w = some b ∧
        s.expired now a = t.expired now b := by
    have hw := hstamp w
    cases hfs : s.slices.find? w with
    | none =>
      rw [hfs, Option.map_none, eq_comm, Option.map_eq_none_iff] at hw
      exact .inl ⟨rfl, hw⟩
    | some a =>
      rw [hfs, Option.map_some, eq_comm, Option.map_eq_some_iff] at hw
      obtain ⟨b, hb, hab⟩ := hw
      exact .inr ⟨a, b, rfl, hb, hexpired hab.symm⟩
  cases o with
  | get w =>
    rcases hfind w with ⟨hn, hn'⟩ | ⟨a, b, ha, hb, hab⟩
    · simp only [change, hn, hn']
    · simp only [change, ha, hb, hab]
  | push w p maxLength =>
    rcases hfind w with ⟨hn, hn'⟩ | ⟨a, b, ha, hb, hab⟩
    · simp only [change, hn, hn']
    · simp only [change, ha, hb, hab]
  | invalidate w =>
    rcases hfind w with ⟨hn, hn'⟩ | ⟨a, b, ha, hb, -⟩
    · simp only [change, hn, hn']
    · simp only [change, ha, hb, Option.isSome_some]
  | refill w posts v =>
    simp only [change] at h ⊢
    by_cases ht : s.versions.told w = v <;> by_cases ht' : t.versions.told w = v
    · rw [if_pos ht, if_pos ht']
    · rw [if_pos ht, if_neg ht'] at h
      cases h
    · rw [if_neg ht, if_pos ht'] at h
      cases h
    · rw [if_neg ht, if_neg ht']
  | _ => rfl

end Change

/-! ### What changes nothing -/

/-- The operations that neither store a slice nor find nor drop one. -/
inductive Aside (s : Store) (now : Nat) : Operation → Prop
  /-- A post is put into a slice that is there and not too old. -/
  | pushed {u : UserId} {slice : Slice} (p : Post) (maxLength : Nat) :
      s.slices.find? u = some slice → s.expired now slice = false →
      Aside s now (.push u p maxLength)
  | asked (u : UserId) : Aside s now (.version u)
  | refused {u : UserId} {posts : List Post} {version : Nat} :
      (s.refill now u posts version).1 = false → Aside s now (.refill u posts version)
  | getMissed {u : UserId} : s.slices.find? u = none → Aside s now (.get u)
  | pushMissed {u : UserId} (p : Post) (maxLength : Nat) :
      s.slices.find? u = none → Aside s now (.push u p maxLength)
  | invalidateMissed {u : UserId} : s.slices.find? u = none → Aside s now (.invalidate u)

theorem change_of_aside {s : Store} {now : Nat} {o : Operation} (h : s.Aside now o) :
    s.change now o = .still := by
  cases h with
  | pushed p maxLength hf he => simp only [change, hf, he, Bool.false_eq_true, if_false]
  | asked u => rfl
  | @refused u posts version hr =>
    have ht : s.versions.told u ≠ version := by
      intro ht
      rw [refill_of_told_eq s now u posts ht] at hr
      cases hr
    exact if_neg ht
  | getMissed hf => simp only [change, hf]
  | pushMissed p maxLength hf => simp only [change, hf]
  | invalidateMissed hf => simp [change, hf]

end Store
end Timelines.Cache
