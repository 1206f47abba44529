import Timelines.Proofs.Cache.Staleness
import Timelines.Proofs.Post.Newest

/-! What an operation does to the slices.

Whatever slice a user has after an operation, the user had before, but for two cases: a refill that
was accepted stored it (`find?_refill`), or a push put its post into the one that was there
(`find?_push`). Either keeps the bound on how long a slice is (`bounded_after`). -/
namespace Timelines.Cache.Store

theorem config_push (s : Store) (now : Nat) (u : UserId) (p : Post) (maxLength : Nat) :
    (s.push now u p maxLength).config = s.config := by
  unfold push
  dsimp only
  split
  · rfl
  · split
    · rfl
    · split <;> rfl

theorem config_refill (s : Store) (now : Nat) (u : UserId) (posts : List Post) (version : Nat) :
    (s.refill now u posts version).2.config = s.config := by
  unfold refill Store.version
  dsimp only
  split <;> rfl

/-- The bounds of a cache stay as they are. -/
theorem config_after (s : Store) (now : Nat) (o : Operation) :
    (s.after now o).config = s.config := by
  cases o with
  | get u =>
    show (s.get now u).2.config = s.config
    unfold get
    split
    · rfl
    · split <;> rfl
  | set u posts => rfl
  | push u p maxLength => exact config_push s now u p maxLength
  | invalidate u => rfl
  | version u => rfl
  | refill u posts version => exact config_refill s now u posts version
  | clear => rfl

/-! ### Slices that stay -/

theorem find?_drop (s : Store) (u v : UserId) :
    (s.drop u).slices.find? v = if v = u then none else s.slices.find? v := by
  by_cases h : v = u
  · rw [if_pos h, h]
    exact Recency.find?_erase_self ..
  · rw [if_neg h]
    exact Recency.find?_erase_of_ne _ h

theorem find?_of_drop {s : Store} {u v : UserId} {slice : Slice}
    (h : (s.drop u).slices.find? v = some slice) : v ≠ u ∧ s.slices.find? v = some slice := by
  rw [find?_drop] at h
  split at h
  next => cases h
  next hv => exact ⟨hv, h⟩

theorem find?_invalidate {s : Store} {u v : UserId} {slice : Slice}
    (h : (s.invalidate u).slices.find? v = some slice) : v ≠ u ∧ s.slices.find? v = some slice :=
  find?_of_drop (s := s.advance u) h

theorem find?_get {s : Store} {now : Nat} {u v : UserId} {slice : Slice}
    (h : (s.get now u).2.slices.find? v = some slice) : s.slices.find? v = some slice := by
  unfold get at h
  split at h
  next => exact h
  next =>
    split at h
    next => exact (find?_of_drop (s := s) h).2
    next => exact (Recency.find?_use ..).symm.trans h

/-- To drop one user's slice, or to put a post into it, leaves the others'. -/
theorem find?_invalidate_of_ne (s : Store) {u v : UserId} (h : v ≠ u) :
    (s.invalidate u).slices.find? v = s.slices.find? v := by
  rw [invalidate, find?_drop, if_neg h]
  rfl

theorem find?_push_of_ne (s : Store) (now : Nat) {u v : UserId} (h : v ≠ u) (p : Post)
    (maxLength : Nat) : (s.push now u p maxLength).slices.find? v = s.slices.find? v := by
  unfold push
  dsimp only
  split
  next => rfl
  next =>
    split
    next =>
      rw [find?_drop, if_neg h]
      rfl
    next =>
      split
      next => rfl
      next =>
        rw [Recency.find?_modify, if_neg h]
        rfl

/-! ### Slices that are new -/

/-- A refill that is accepted stores the newest of the posts, and maybe drops another slice. -/
theorem find?_refill {s : Store} {now : Nat} {u v : UserId} {posts : List Post} {version : Nat}
    {slice : Slice} (h : (s.refill now u posts version).2.slices.find? v = some slice) :
    s.slices.find? v = some slice ∨
      v = u ∧ s.versions.told u = version ∧
        slice.posts = (Post.newestFirst posts).take s.config.entries := by
  by_cases ht : s.versions.told u = version
  · unfold refill at h
    split at h
    next told s' hs =>
      have hs' : s' = (s.version u).2 := by rw [hs]
      rw [if_pos (by rw [← ht, ← version_fst, hs]), hs'] at h
      by_cases hv : v = u
      · subst hv
        have hput := Recency.find?_put_self s.slices s.config.users v
          ⟨(Post.newestFirst posts).take s.config.entries, now⟩
        cases hput.symm.trans h
        exact .inr ⟨rfl, ht, rfl⟩
      · exact .inl (Recency.find?_of_put_of_ne hv h)
  · rw [refill_of_told_ne s now u posts ht] at h
    exact .inl h

/-- A push drops the slice that it finds too old. Otherwise it puts the post in its place, unless it
is there. -/
theorem find?_push_self (s : Store) (now : Nat) (u : UserId) (p : Post) (maxLength : Nat) :
    (s.push now u p maxLength).slices.find? u = (s.slices.find? u).bind fun old =>
      if s.expired now old then none
      else some { old with
        posts := Post.grow (max 1 (min maxLength s.config.entries)) p old.posts } := by
  have hself : (s.advance u).slices.find? u = s.slices.find? u := rfl
  unfold push
  dsimp only
  split
  next hn => rw [← hself, hn, Option.bind_none]
  next old hold =>
    have hexpired : (s.advance u).expired now old = s.expired now old := rfl
    rw [← hself, hold, Option.bind_some]
    by_cases he : s.expired now old
    · rw [if_pos (hexpired.trans he), if_pos he]
      exact Recency.find?_erase_self ..
    · rw [if_neg (hexpired ▸ he), if_neg he, Post.grow]
      by_cases ha : old.posts.any (·.id = p.id)
      · rw [if_pos ha, if_pos (by simpa using ha)]
        exact hold
      · rw [if_neg ha, if_neg (by simpa using ha)]
        exact (Recency.find?_modify ..).trans (by rw [if_pos rfl, hold]; rfl)

theorem find?_push {s : Store} {now : Nat} {u v : UserId} {p : Post} {maxLength : Nat}
    {slice : Slice} (h : (s.push now u p maxLength).slices.find? v = some slice) :
    v ≠ u ∧ s.slices.find? v = some slice ∨
      v = u ∧ ∃ old, s.slices.find? u = some old ∧ s.expired now old = false ∧
        slice = { old with
          posts := Post.grow (max 1 (min maxLength s.config.entries)) p old.posts } := by
  by_cases hv : v = u
  · rw [hv, find?_push_self] at h
    obtain ⟨old, hold, h⟩ := Option.bind_eq_some_iff.mp h
    obtain ⟨he, h⟩ := Option.ite_none_left_eq_some.mp h
    exact .inr ⟨hv, old, hold, Bool.eq_false_iff.mpr he, (Option.some.inj h).symm⟩
  · rw [find?_push_of_ne s now hv] at h
    exact .inl ⟨hv, h⟩

/-! ### How long slices are -/

/-- No slice has more posts than the cache keeps in one. -/
def Bounded (s : Store) : Prop :=
  ∀ u slice, s.slices.find? u = some slice → slice.posts.length ≤ s.config.entries

theorem bounded_create (config : Config) : (create config).Bounded := nofun

/-- Slices stay within the bound of the cache, whatever bound a push is told. -/
theorem bounded_after {s : Store} (h : s.Bounded) (now : Nat) (o : Operation) :
    (s.after now o).Bounded := by
  intro v slice hf
  rw [config_after]
  cases o with
  | get u => exact h v slice (find?_get hf)
  | set u posts =>
    by_cases hv : v = u
    · subst hv
      cases (Recency.find?_put_self s.slices s.config.users v _).symm.trans hf
      exact List.length_take_le ..
    · exact h v slice (Recency.find?_of_put_of_ne hv hf)
  | push u p maxLength =>
    rcases find?_push hf with ⟨-, hold⟩ | ⟨rfl, old, hold, -, rfl⟩
    · exact h v slice hold
    · have hone : 1 ≤ s.config.entries := Nat.le_max_left ..
      exact Post.length_grow_le _ (h v old hold) (Nat.max_le.mpr ⟨hone, Nat.min_le_right ..⟩)
  | invalidate u => exact h v slice (find?_invalidate hf).2
  | version u => exact h v slice hf
  | refill u posts version =>
    rcases find?_refill hf with hold | ⟨-, -, hposts⟩
    · exact h v slice hold
    · rw [hposts]
      exact List.length_take_le ..
  | clear => cases hf

/-- So does what a reader is given. -/
theorem length_le_of_get {s : Store} (h : s.Bounded) {now : Nat} {u : UserId} {posts : List Post}
    (hg : (s.get now u).1 = some posts) : posts.length ≤ s.config.entries := by
  unfold get at hg
  split at hg
  next => cases hg
  next slice hslice =>
    split at hg
    next => cases hg
    next =>
      cases hg
      rw [(Post.newestFirst_perm slice.posts).length_eq]
      exact h u slice hslice

end Timelines.Cache.Store
