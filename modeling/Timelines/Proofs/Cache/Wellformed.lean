import Timelines.Proofs.Cache.Slices
import Timelines.Proofs.Post.Newest

/-! What holds of a cache at all times.

`wellformed_run`: after any operations, in any order and on any users, there are no more slices and
no more versions than users are kept, one for each; a slice has its posts in order, no more than are
kept of them and none twice if it never was given one twice; and no version is beyond the last one
issued. So what a reader is given is the slice as it is stored.

`Touch` lists all that an operation can do to the slices. -/
namespace Timelines.Cache

/-- The user whom an operation is about; `clear` is about all. -/
def Operation.user? : Operation → Option UserId
  | .get u | .set u _ | .push u _ _ | .invalidate u | .version u | .refill u _ _ => some u
  | .clear => none

namespace Store

/-- The posts that an operation stores: a refill stores its posts if the version is the user's. -/
def stored? (s : Store) : Operation → Option (List Post)
  | .set _ posts => some posts
  | .refill u posts version => if s.versions.told u = version then some posts else none
  | _ => none

/-- The lists that operations store, each with its time. -/
def stored (s : Store) : List (Nat × Operation) → List (List Post)
  | [] => []
  | (now, o) :: rest => (s.stored? o).toList ++ (s.after now o).stored rest

/-- A slice with a post put in its place. -/
def grown (s : Store) (p : Post) (maxLength : Nat) (slice : Slice) : Slice :=
  { slice with
    posts := (Post.insertInOrder p slice.posts).take (max 1 (min maxLength s.config.entries)) }

/-- All that an operation can do to the slices. -/
inductive Touch (s : Store) (now : Nat) : Operation → Recency UserId Slice → Prop
  | kept {o : Operation} : o ≠ .clear → Touch s now o s.slices
  | used (u : UserId) : Touch s now (.get u) (s.slices.use u)
  | dropped {o : Operation} {u : UserId} : o.user? = some u → Touch s now o (s.slices.erase u)
  | filled {o : Operation} {u : UserId} {posts : List Post} : o.user? = some u →
      s.stored? o = some posts → Touch s now o
        (s.slices.put s.config.users u ⟨(Post.newestFirst posts).take s.config.entries, now⟩)
  | grew {u : UserId} {p : Post} {maxLength : Nat} {slice : Slice} :
      s.slices.find? u = some slice → (∀ q ∈ slice.posts, q.id ≠ p.id) →
      Touch s now (.push u p maxLength) (s.slices.modify u (s.grown p maxLength))
  | cleared : Touch s now .clear .empty

theorem refill_of_told_eq (s : Store) (now : Nat) (u : UserId) (posts : List Post) {version : Nat}
    (h : s.versions.told u = version) :
    s.refill now u posts version = (true, (s.version u).2.store now u posts) := by
  have hv := version_fst s u
  unfold refill
  split
  next v s' hs =>
    rw [hs] at hv ⊢
    rw [if_pos (by rw [show v = s.versions.told u from hv]; exact h)]

theorem touch_after (s : Store) (now : Nat) (o : Operation) :
    Touch s now o (s.after now o).slices := by
  cases o with
  | get u =>
    show Touch s now _ (s.get now u).2.slices
    unfold get
    split
    next => exact .kept nofun
    next slice hslice =>
      split
      next => exact .dropped rfl
      next => exact .used u
  | set u posts => exact .filled rfl rfl
  | push u p maxLength =>
    show Touch s now _ (s.push now u p maxLength).slices
    unfold push
    dsimp only
    split
    next => exact .kept nofun
    next slice hslice =>
      split
      next => exact .dropped rfl
      next =>
        split
        next => exact .kept nofun
        next hany => exact .grew hslice (by simpa using hany)
  | invalidate u => exact .dropped rfl
  | version u => exact .kept nofun
  | refill u posts version =>
    show Touch s now _ (s.refill now u posts version).2.slices
    by_cases ht : s.versions.told u = version
    · rw [refill_of_told_eq s now u posts ht]
      exact .filled rfl (if_pos ht)
    · rw [refill_of_told_ne s now u posts ht]
      exact .kept nofun
  | clear => exact .cleared

/-! ### Slices -/

section Slices
variable {s : Store} {now : Nat} {o : Operation} {m : Recency UserId Slice}

theorem size_touch (h : s.slices.size ≤ s.config.users) (ht : Touch s now o m) :
    m.size ≤ s.config.users := by
  cases ht with
  | kept _ => exact h
  | used u => exact Nat.le_trans (Recency.size_use_le _ u) h
  | dropped _ => exact Nat.le_trans (Recency.size_erase_le ..) h
  | filled _ _ => exact Recency.size_put_le _ _ _ _ (Nat.le_max_left ..) h
  | grew _ _ =>
    rw [Recency.size_modify]
    exact h
  | cleared => exact Nat.zero_le _

theorem nodup_touch (h : s.slices.keys.Nodup) (ht : Touch s now o m) : m.keys.Nodup := by
  cases ht with
  | kept _ => exact h
  | used u => exact Recency.nodup_keys_use h u
  | dropped _ => exact Recency.nodup_keys_erase h _
  | filled _ _ => exact Recency.nodup_keys_put h ..
  | grew _ _ =>
    rw [Recency.keys_modify]
    exact h
  | cleared => exact .nil

/-- Whatever holds of the posts of all slices goes on to hold if it holds of the posts that are
stored and outlasts a further post. -/
theorem forall_touch {P : List Post → Prop}
    (h : ∀ u slice, s.slices.find? u = some slice → P slice.posts)
    (hstored : ∀ posts, s.stored? o = some posts →
      P ((Post.newestFirst posts).take s.config.entries))
    (hgrown : ∀ (p : Post) (posts : List Post) (k : Nat), (∀ q ∈ posts, q.id ≠ p.id) → P posts →
      P ((Post.insertInOrder p posts).take k))
    (ht : Touch s now o m) : ∀ u slice, m.find? u = some slice → P slice.posts := by
  intro v slice hv
  cases ht with
  | kept _ => exact h v slice hv
  | used u => exact h v slice (Recency.find?_use s.slices v u ▸ hv)
  | dropped _ => exact h v slice (find?_of_drop hv).2
  | @filled _ u posts hu hposts =>
    by_cases hw : v = u
    · subst hw
      rw [Recency.find?_put_self] at hv
      cases hv
      exact hstored posts hposts
    · exact h v slice (Recency.find?_of_put_of_ne hw hv)
  | @grew u p maxLength old hold hids =>
    rw [Recency.find?_modify] at hv
    split at hv
    next hw =>
      subst hw
      rw [hold] at hv
      cases hv
      exact hgrown p old.posts _ hids (h v old hold)
    next => exact h v slice hv
  | cleared => cases hv

end Slices

/-- Each slice has its posts in order. -/
def Sorted (s : Store) : Prop :=
  ∀ u slice, s.slices.find? u = some slice → slice.posts.Pairwise fun a b => a.notOlder b

/-- No slice has a post twice. -/
def Simple (s : Store) : Prop :=
  ∀ u slice, s.slices.find? u = some slice → slice.posts.Pairwise (·.id ≠ ·.id)

theorem simple_create (config : Config) : (create config).Simple := nofun

theorem sorted_after {s : Store} (h : s.Sorted) (now : Nat) (o : Operation) :
    (s.after now o).Sorted := by
  refine forall_touch h (fun posts _ => ?_) (fun p posts k _ hp => ?_) (touch_after s now o)
  · exact Post.pairwise_take_newestFirst posts _
  · exact (Post.sorted_insertInOrder p hp).sublist (List.take_sublist ..)

theorem simple_after {s : Store} (h : s.Simple) (now : Nat) {o : Operation}
    (ho : ∀ posts, s.stored? o = some posts → posts.Pairwise (·.id ≠ ·.id)) :
    (s.after now o).Simple := by
  refine forall_touch h (fun posts hs => ?_) (fun p posts k hids hp => ?_) (touch_after s now o)
  · exact (Post.pairwise_id_newestFirst (ho posts hs)).sublist (List.take_sublist ..)
  · have hcons : (p :: posts).Pairwise (·.id ≠ ·.id) :=
      List.pairwise_cons.mpr ⟨fun q hq => Ne.symm (hids q hq), hp⟩
    have hperm := (Post.insertInOrder_perm p posts).symm.pairwise hcons fun hab => Ne.symm hab
    exact hperm.sublist (List.take_sublist ..)

/-! ### All together -/

/-- What holds of a cache at all times. -/
structure Wellformed (s : Store) : Prop where
  slices : s.slices.size ≤ s.config.users
  slices_nodup : s.slices.keys.Nodup
  versions : s.versions.current.size ≤ s.config.users
  versions_nodup : s.versions.current.keys.Nodup
  bounded : s.Bounded
  sorted : s.Sorted
  issued : s.versions.Issued

theorem wellformed_create (config : Config) : (create config).Wellformed where
  slices := Nat.zero_le _
  slices_nodup := .nil
  versions := Nat.zero_le _
  versions_nodup := .nil
  bounded := bounded_create config
  sorted := nofun
  issued := issued_create config

/-- The versions remembered after an operation are those before, with one of them asked for or
put in front. -/
theorem current_after (s : Store) (now : Nat) (o : Operation) :
    (s.after now o).versions.current = s.versions.current ∨
      ∃ u, o.user? = some u ∧ ((s.after now o).versions.current = s.versions.current.use u ∨
        ∃ v, (s.after now o).versions.current = s.versions.current.put s.config.users u v) := by
  have ask (u : UserId) :
      (s.versions.ask s.config.users u).2.current = s.versions.current.use u ∨
        ∃ v, (s.versions.ask s.config.users u).2.current =
          s.versions.current.put s.config.users u v := by
    unfold Versions.ask
    split
    · exact .inl rfl
    · exact .inr ⟨_, rfl⟩
  rw [versions_after]
  cases o with
  | get u => exact .inl rfl
  | set u posts => exact .inl rfl
  | push u p maxLength => exact .inr ⟨u, rfl, .inr ⟨_, rfl⟩⟩
  | invalidate u => exact .inr ⟨u, rfl, .inr ⟨_, rfl⟩⟩
  | version u => exact .inr ⟨u, rfl, ask u⟩
  | refill u posts version => exact .inr ⟨u, rfl, ask u⟩
  | clear => exact .inl rfl

theorem wellformed_after {s : Store} (h : s.Wellformed) (now : Nat) (o : Operation) :
    (s.after now o).Wellformed := by
  have ht := touch_after s now o
  have hversions : (s.after now o).versions.current.size ≤ s.config.users ∧
      (s.after now o).versions.current.keys.Nodup := by
    rcases current_after s now o with he | ⟨u, -, he | ⟨v, he⟩⟩ <;> rw [he]
    · exact ⟨h.versions, h.versions_nodup⟩
    · exact ⟨Nat.le_trans (Recency.size_use_le _ u) h.versions,
        Recency.nodup_keys_use h.versions_nodup u⟩
    · exact ⟨Recency.size_put_le _ _ _ _ (Nat.le_max_left ..) h.versions,
        Recency.nodup_keys_put h.versions_nodup ..⟩
  rw [← config_after s now o] at hversions
  exact {
    slices := config_after s now o ▸ size_touch h.slices ht
    slices_nodup := nodup_touch h.slices_nodup ht
    versions := hversions.1
    versions_nodup := hversions.2
    bounded := bounded_after h.bounded now o
    sorted := sorted_after h.sorted now o
    issued := issued_after h.issued now o }

theorem wellformed_of_run {s : Store} (h : s.Wellformed) (os : List (Nat × Operation)) :
    (s.run os).Wellformed := by
  induction os generalizing s with
  | nil => exact h
  | cons o rest ih => exact ih (wellformed_after h o.1 o.2)

theorem simple_of_run {s : Store} (h : s.Simple) (os : List (Nat × Operation))
    (hs : ∀ posts ∈ s.stored os, posts.Pairwise (·.id ≠ ·.id)) : (s.run os).Simple := by
  induction os generalizing s with
  | nil => exact h
  | cons o rest ih =>
    refine ih (simple_after h o.1 fun posts hp => ?_) fun posts hp => ?_
    · exact hs posts (List.mem_append_left _ (Option.mem_toList.mpr hp))
    · exact hs posts (List.mem_append_right _ hp)

theorem config_run (s : Store) (os : List (Nat × Operation)) : (s.run os).config = s.config := by
  induction os generalizing s with
  | nil => rfl
  | cons o rest ih => exact (ih _).trans (config_after s o.1 o.2)

/-- A reader is given the slice as it is stored. -/
theorem get_of_sorted {s : Store} (h : s.Sorted) (now : Nat) (u : UserId) :
    (s.get now u).1 =
      (s.slices.find? u).bind fun slice =>
        if s.expired now slice then none else some slice.posts := by
  unfold get
  split
  next hn => rw [hn, Option.bind_none]
  next slice hslice =>
    rw [hslice, Option.bind_some]
    split
    next => rfl
    next => rw [Post.newestFirst_of_pairwise (h u slice hslice)]

/-- **A cache is well-formed at all times**, whatever is done to it and whatever its bounds: it
keeps them, with one slice and one version for a user, each slice is in order, and a reader is given
the slice as it is stored. No slice has a post twice if no list that was stored had. -/
theorem wellformed_run (config : Config) (os : List (Nat × Operation)) :
    let s := (create config).run os
    s.config = config ∧ s.Wellformed ∧
      ((∀ posts ∈ (create config).stored os, posts.Pairwise (·.id ≠ ·.id)) → s.Simple) ∧
      ∀ now u, (s.get now u).1 = (s.slices.find? u).bind fun slice =>
        if s.expired now slice then none else some slice.posts := by
  have h := wellformed_of_run (wellformed_create config) os
  exact ⟨config_run .., h, simple_of_run (simple_create config) os, get_of_sorted h.sorted⟩

/-- A cache with bounds of zero keeps one slice of one post: of two posts of one instant that of the
higher id, whichever comes first and whichever comes again. -/
theorem wellformed_run_of_no_bounds :
    let low : Post := { (default : Post) with id := ⟨.ofNat 1⟩ }
    let high : Post := { (default : Post) with id := ⟨.ofNat 2⟩ }
    let os : List (Nat × Operation) :=
      [(0, .set ⟨"bob"⟩ [low, high]), (1, .version ⟨"carol"⟩), (2, .push ⟨"bob"⟩ low 5)]
    let s := (create ⟨0, 0, none⟩).run os
    (s.get 3 ⟨"bob"⟩).1 = some [high] ∧ s.Wellformed ∧ s.Simple := by
  intro low high os s
  have hnewest : Post.newestFirst [low, high] = [high, low] :=
    Post.newestFirst_of_perm (by decide) (by decide)
  obtain ⟨-, h, hsimple, hget⟩ := wellformed_run ⟨0, 0, none⟩ os
  refine ⟨(hget 3 ⟨"bob"⟩).trans ?_, h, hsimple fun posts hp => ?_⟩
  · simp only [os, run, after, store, hnewest]
    rfl
  · have hposts : posts = [low, high] := List.mem_singleton.mp hp
    rw [hposts]
    decide

end Store
end Timelines.Cache
