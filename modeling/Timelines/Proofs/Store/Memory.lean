import Timelines.Store.Memory

/-! What a write does to the timelines: it puts the post behind those of the owner, if the owner has
none with its id, and leaves everything else alone.

A store is sound if each id names one post and the timelines hold recorded posts, each once. Where a
recorded post is written, a sound store is as its readers expect (`mem_timeline_write`). -/
namespace Timelines.Store.Memory

theorem posts_write (m : Memory) (owner : UserId) (p : Post) :
    (m.write owner p).posts = m.posts := by
  unfold write
  split
  · rfl
  · split <;> rfl

theorem lookup_map_append (es : List (UserId × List Post)) (owner u : UserId) (p : Post) :
    (es.map fun e => if e.1 = owner then (owner, e.2 ++ [p]) else e).lookup u =
      if u = owner then (es.lookup u).map (· ++ [p]) else es.lookup u := by
  induction es with
  | nil =>
    split <;> rfl
  | cons e es ih =>
    obtain ⟨v, posts⟩ := e
    rw [List.map_cons]
    by_cases hv : v = owner
    · subst hv
      rw [if_pos rfl, List.lookup_cons, List.lookup_cons, ih]
      by_cases hu : u = v <;> simp [hu, beq_false_of_ne]
    · rw [if_neg hv, List.lookup_cons, List.lookup_cons, ih]
      by_cases hu : u = v
      · subst hu
        simp [hv]
      · simp [hu, beq_false_of_ne]

theorem any_eq_isSome_lookup (es : List (UserId × List Post)) (owner : UserId) :
    es.any (·.1 = owner) = (es.lookup owner).isSome := by
  rw [Bool.eq_iff_iff, List.lookup_isSome_iff, List.any_eq_true]
  simp only [decide_eq_true_eq, beq_iff_eq, eq_comm (b := owner)]

/-- The timelines after a write. -/
theorem timeline_write (m : Memory) (owner u : UserId) (p : Post) :
    (m.write owner p).timeline u =
      if u = owner ∧ ∀ q ∈ m.timeline owner, q.id ≠ p.id then m.timeline owner ++ [p]
      else m.timeline u := by
  unfold write
  split
  next h =>
    rw [if_neg]
    rintro ⟨-, hn⟩
    obtain ⟨q, hq, he⟩ := List.any_eq_true.mp h
    exact hn q hq (of_decide_eq_true he)
  next h =>
    have hfresh : ∀ q ∈ m.timeline owner, q.id ≠ p.id := fun q hq he =>
      h (List.any_eq_true.mpr ⟨q, hq, decide_eq_true he⟩)
    have hiff : (u = owner ∧ ∀ q ∈ m.timeline owner, q.id ≠ p.id) ↔ u = owner :=
      ⟨fun hu => hu.1, fun hu => ⟨hu, hfresh⟩⟩
    simp only [hiff, any_eq_isSome_lookup]
    unfold timeline
    cases ho : m.timelines.lookup owner with
    | some posts =>
      simp only [Option.isSome_some, if_true, lookup_map_append]
      by_cases hu : u = owner
      · simp [hu, ho]
      · simp [hu]
    | none =>
      simp only [Option.isSome_none, Bool.false_eq_true, if_false, List.lookup_append]
      by_cases hu : u = owner
      · simp [hu, ho]
      · simp [hu, List.lookup_cons, beq_false_of_ne]

/-! ### Sound stores -/

structure Sound (m : Memory) : Prop where
  ids : m.posts.Pairwise (·.id ≠ ·.id)
  recorded : ∀ u, ∀ p ∈ m.timeline u, p ∈ m.posts
  once : ∀ u, (m.timeline u).Pairwise (·.id ≠ ·.id)

variable {m : Memory} {p : Post}

theorem Sound.eq_of_id (h : m.Sound) {q : Post} (hp : p ∈ m.posts) (hq : q ∈ m.posts)
    (hid : p.id = q.id) : p = q := by
  have hpair : m.posts.Pairwise fun a b => a.id = b.id → a = b :=
    h.ids.imp fun hne he => absurd he hne
  have hflip : m.posts.Pairwise (flip fun a b => a.id = b.id → a = b) :=
    h.ids.imp fun hne he => absurd he.symm hne
  exact hpair.forall_of_forall_of_flip (fun _ _ _ => rfl) hflip hp hq hid

/-- A recorded post that is written is in the owner's timeline, whether it was before or not. -/
theorem Sound.mem_timeline_write (h : m.Sound) (hp : p ∈ m.posts) (owner u : UserId) (q : Post) :
    q ∈ (m.write owner p).timeline u ↔ q ∈ m.timeline u ∨ u = owner ∧ q = p := by
  rw [timeline_write]
  split
  next hw =>
    rw [hw.1, List.mem_append, List.mem_singleton]
    simp
  next hw =>
    refine ⟨.inl, fun hq => hq.elim id ?_⟩
    rintro ⟨rfl, rfl⟩
    have hn : ¬∀ r ∈ m.timeline u, r.id ≠ q.id := fun hn => hw ⟨rfl, hn⟩
    obtain ⟨r, hr, hid⟩ : ∃ r ∈ m.timeline u, r.id = q.id := by simpa using hn
    rwa [← h.eq_of_id (h.recorded u r hr) hp hid]

theorem Sound.write (h : m.Sound) (hp : p ∈ m.posts) (owner : UserId) :
    (m.write owner p).Sound where
  ids := by
    rw [posts_write]
    exact h.ids
  recorded := by
    intro u q hq
    rw [posts_write]
    rcases (h.mem_timeline_write hp owner u q).mp hq with hq | ⟨-, rfl⟩
    · exact h.recorded u q hq
    · exact hp
  once := by
    intro u
    rw [timeline_write]
    split
    next hw =>
      refine List.pairwise_append.mpr
        ⟨h.once owner, List.pairwise_singleton .., fun q hq r hr => ?_⟩
      rw [List.mem_singleton.mp hr]
      exact hw.2 q hq
    next => exact h.once u

/-- A further post with an id of its own. -/
theorem Sound.record (h : m.Sound) (hid : ∀ q ∈ m.posts, q.id ≠ p.id) :
    Sound { m with posts := m.posts ++ [p] } where
  ids := by
    refine List.pairwise_append.mpr ⟨h.ids, List.pairwise_singleton .., fun q hq r hr => ?_⟩
    rw [List.mem_singleton.mp hr]
    exact hid q hq
  recorded := fun u q hq => List.mem_append_left _ (h.recorded u q hq)
  once := h.once

end Timelines.Store.Memory
