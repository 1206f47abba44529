import Mathlib.Data.List.Perm.Basic
import Timelines.Proofs.Post.Sorting

/-! The newest posts of a timeline.

A list of posts covers the rows of a timeline up to a limit when it is in order, holds nothing else,
and lacks a row that counts only if it has that many newer ones. The first rows of a timeline cover
it (`covers_newestFirst`, `Covers.take`), and a list that covers it goes on to do so with a further
row put in its place (`Covers.insert`), also when it is trimmed then (`Covers.grow`). When all rows
count, a list that covers a timeline starts as the timeline does (`Covers.take_eq`). -/
namespace Timelines.Post

/-! ### The order -/

theorem newer_trans {a b c : Post} (h : a.newer b) (h' : b.newer c) : a.newer c := by
  rw [newer_iff] at *
  exact h'.trans h

theorem not_newer_self (a : Post) : a.newer a = false := by
  rw [← Bool.not_eq_true, newer_iff]
  exact lt_irrefl _

theorem newer_asymm {a b : Post} (h : a.newer b) : b.newer a = false := by
  rw [← Bool.not_eq_true, newer_iff]
  exact (newer_iff.mp h).asymm

theorem rank_ne {a b : Post} (h : a.id ≠ b.id) : a.rank ≠ b.rank :=
  fun hr => h (rank_eq_iff.mp hr).2

theorem newer_of_notOlder {a b : Post} (h : a.notOlder b) (hid : a.id ≠ b.id) : a.newer b :=
  newer_iff.mpr (lt_of_le_of_ne (notOlder_iff.mp h) (rank_ne hid).symm)

theorem pairwise_id_newestFirst {rows : List Post} (h : rows.Pairwise (·.id ≠ ·.id)) :
    (newestFirst rows).Pairwise (·.id ≠ ·.id) :=
  (newestFirst_perm rows).symm.pairwise h fun hab => Ne.symm hab

theorem pairwise_newer_newestFirst {rows : List Post} (h : rows.Pairwise (·.id ≠ ·.id)) :
    (newestFirst rows).Pairwise fun a b => a.newer b :=
  (pairwise_newestFirst rows).imp₂ (fun _ _ => newer_of_notOlder) (pairwise_id_newestFirst h)

/-- Posts in strict order are as they are sorted. -/
theorem newestFirst_of_newer {posts : List Post} (h : posts.Pairwise fun a b => a.newer b) :
    newestFirst posts = posts :=
  newestFirst_of_pairwise (h.imp notOlder_of_newer)

theorem nodup_of_newer {posts : List Post} (h : posts.Pairwise fun a b => a.newer b) :
    posts.Nodup :=
  h.imp fun {a b} hab he => by
    rw [he, not_newer_self] at hab
    cases hab

/-- There is one strict order of some posts. -/
theorem eq_of_perm_of_newer {posts posts' : List Post} (h : posts.Perm posts')
    (hs : posts.Pairwise fun a b => a.newer b) (hs' : posts'.Pairwise fun a b => a.newer b) :
    posts = posts' := by
  refine h.eq_of_pairwise (fun a b _ _ hab hba => ?_) hs hs'
  rw [newer_asymm hab] at hba
  cases hba

/-- The order does not depend on how the posts came, if each has an id of its own. -/
theorem newestFirst_congr {rows rows' : List Post} (h : rows.Pairwise (·.id ≠ ·.id))
    (h' : rows'.Pairwise (·.id ≠ ·.id)) (hmem : ∀ p, p ∈ rows ↔ p ∈ rows') :
    newestFirst rows = newestFirst rows' :=
  newestFirst_congr_of_rank (h.imp rank_ne) (h'.imp rank_ne) hmem

/-- Posts are sorted to the strict order that there is of them. -/
theorem newestFirst_of_perm {rows posts : List Post} (h : rows.Perm posts)
    (hs : posts.Pairwise fun a b => a.newer b) : newestFirst rows = posts := by
  have hranks : posts.Pairwise (·.rank ≠ ·.rank) := hs.imp fun hab => (newer_iff.mp hab).ne'
  have hranks' : rows.Pairwise (·.rank ≠ ·.rank) := h.symm.pairwise hranks Ne.symm
  rw [newestFirst_congr_of_rank hranks' hranks fun _ => h.mem_iff, newestFirst_of_newer hs]

/-- An id tells which of some posts it is. -/
def KnownById (posts : List Post) : Prop := ∀ p ∈ posts, ∀ q ∈ posts, q.id = p.id → q = p

theorem KnownById.mono {posts posts' : List Post} (h : KnownById posts')
    (hsub : ∀ p ∈ posts, p ∈ posts') : KnownById posts :=
  fun p hp q hq => h p (hsub p hp) q (hsub q hq)

theorem KnownById.pairwise {posts : List Post} (h : KnownById posts) (hn : posts.Nodup) :
    posts.Pairwise (·.id ≠ ·.id) :=
  hn.imp_of_mem fun {p q} hp hq hne hid => hne (h q hq p hp hid)

/-- How many of some posts come before a post. -/
def ahead (posts : List Post) (p : Post) : Nat := posts.countP (·.newer p)

theorem ahead_cons (q : Post) (posts : List Post) (p : Post) :
    ahead (q :: posts) p = ahead posts p + if q.newer p then 1 else 0 :=
  List.countP_cons

/-! ### The first of some posts in order -/

section Take
variable {posts : List Post}

/-- The posts that come before a post are the first. -/
theorem ahead_take (h : posts.Pairwise fun a b => a.newer b) (k : Nat) (p : Post) :
    min (ahead posts p) k ≤ ahead (posts.take k) p := by
  induction posts generalizing k with
  | nil =>
    rw [List.take_nil]
    exact Nat.min_le_left ..
  | cons q posts ih =>
    obtain ⟨hq, hposts⟩ := List.pairwise_cons.mp h
    cases k with
    | zero =>
      rw [Nat.min_zero]
      exact Nat.zero_le _
    | succ k =>
      rw [List.take_succ_cons, ahead_cons, ahead_cons]
      have hih := ih hposts k
      by_cases hqp : q.newer p
      · rw [if_pos hqp]
        omega
      · -- What comes after a post that is not newer is not newer either.
        have hnone : ahead posts p = 0 :=
          List.countP_eq_zero.mpr fun r hr hrp => hqp (newer_trans (hq r hr) hrp)
        rw [if_neg hqp, hnone]
        omega

/-- A post of some in order is among the first of them just when few enough come before it. -/
theorem mem_take_iff (h : posts.Pairwise fun a b => a.newer b) (k : Nat) {p : Post}
    (hp : p ∈ posts) : p ∈ posts.take k ↔ ahead posts p < k := by
  induction posts generalizing k with
  | nil => cases hp
  | cons q posts ih =>
    obtain ⟨hq, hposts⟩ := List.pairwise_cons.mp h
    cases k with
    | zero => simp
    | succ k =>
      rw [List.take_succ_cons, List.mem_cons, ahead_cons]
      rcases List.mem_cons.mp hp with rfl | hin
      · -- Nothing comes before the first.
        have hnone : ahead posts p = 0 :=
          List.countP_eq_zero.mpr fun r hr hrp => by
            rw [newer_asymm (hq r hr)] at hrp
            cases hrp
        simp [hnone, not_newer_self]
      · have hne : p ≠ q := by
          rintro rfl
          have := hq p hin
          rw [not_newer_self] at this
          cases this
        rw [or_iff_right hne, ih hposts k hin, if_pos (hq p hin)]
        exact Nat.succ_lt_succ_iff.symm

/-- A post in order is among the first, or comes after so many. -/
theorem mem_take_or (h : posts.Pairwise fun a b => a.newer b) (k : Nat) {p : Post}
    (hp : p ∈ posts) : p ∈ posts.take k ∨ k ≤ ahead (posts.take k) p := by
  rcases Nat.lt_or_ge (ahead posts p) k with hlt | hge
  · exact .inl ((mem_take_iff h k hp).mpr hlt)
  · right
    have := ahead_take h k p
    omega

end Take

/-! ### One more post -/

section Insert
variable {posts : List Post} {p : Post}

theorem insertInOrder_perm (p : Post) (posts : List Post) :
    (insertInOrder p posts).Perm (p :: posts) := by
  unfold insertInOrder
  refine List.perm_middle.trans ?_
  rw [List.takeWhile_append_dropWhile]

theorem ahead_insertInOrder (q : Post) : ahead posts q ≤ ahead (insertInOrder p posts) q := by
  rw [ahead, ahead, (insertInOrder_perm p posts).countP_eq, List.countP_cons]
  exact Nat.le_add_right ..

/-- Posts in order stay so, those of one instant and id too. -/
theorem sorted_insertInOrder (p : Post) (h : posts.Pairwise fun a b => a.notOlder b) :
    (insertInOrder p posts).Pairwise fun a b => a.notOlder b := by
  rw [insertInOrder_eq_merge]
  exact List.pairwise_merge notOlder_trans notOlder_total _ _ h (List.pairwise_singleton ..)

theorem pairwise_insertInOrder (h : posts.Pairwise fun a b => a.newer b)
    (hp : ∀ q ∈ posts, q.id ≠ p.id) : (insertInOrder p posts).Pairwise fun a b => a.newer b := by
  have hranks : (p :: posts).Pairwise (·.rank ≠ ·.rank) :=
    List.pairwise_cons.mpr ⟨fun q hq => (rank_ne (hp q hq)).symm,
      h.imp fun hab => (newer_iff.mp hab).ne'⟩
  have hsorted := sorted_insertInOrder p (h.imp notOlder_of_newer)
  refine hsorted.imp₂ (fun a b hab hne => ?_)
    ((insertInOrder_perm p posts).symm.pairwise hranks fun hab => Ne.symm hab)
  exact newer_iff.mpr (lt_of_le_of_ne (notOlder_iff.mp hab) hne.symm)

/-- To sort a further post in is to put it in its place. -/
theorem newestFirst_cons (h : posts.Pairwise fun a b => a.notOlder b)
    (hp : ∀ q ∈ posts, q.id ≠ p.id) : newestFirst (p :: posts) = insertInOrder p posts := by
  -- No post has the rank of the further one, which may as well come last.
  have hlast (r : Int ×ₗ Nat) : ofRank r (p :: posts) = ofRank r (posts ++ [p]) := by
    rw [ofRank_cons, ofRank_append, ofRank_cons]
    split
    next hr => rw [ofRank_eq_nil fun q hq => hr ▸ rank_ne (hp q hq)]; rfl
    next hr => exact (List.append_nil _).symm
  calc newestFirst (p :: posts) = newestFirst (posts ++ [p]) := newestFirst_congr_of_ofRank hlast
    _ = insertInOrder p (newestFirst posts) := (insertInOrder_newestFirst p posts).symm
    _ = insertInOrder p posts := by rw [newestFirst_of_pairwise h]

end Insert

/-! ### Covers -/

/-- Posts cover the rows of a timeline, of which some count: they are in order, all of them are
rows, and a row that counts is among them or comes after as many of them as there can be. -/
structure Covers (limit : Nat) (rows : List Post) (counts : Post → Prop) (posts : List Post) :
    Prop where
  sorted : posts.Pairwise fun a b => a.newer b
  within : ∀ p ∈ posts, p ∈ rows
  full : ∀ p ∈ rows, counts p → p ∈ posts ∨ limit ≤ ahead posts p

variable {limit : Nat} {rows rows' posts : List Post} {counts counts' : Post → Prop}

/-- The rows of a timeline in order cover it. -/
theorem covers_newestFirst (limit : Nat) (counts : Post → Prop) (h : rows.Pairwise (·.id ≠ ·.id)) :
    Covers limit rows counts (newestFirst rows) where
  sorted := pairwise_newer_newestFirst h
  within := fun _ hp => (newestFirst_perm rows).mem_iff.mp hp
  full := fun _ hp _ => .inl ((newestFirst_perm rows).mem_iff.mpr hp)

/-- With more rows a cover stays one as long as no more of them count. -/
theorem Covers.mono (h : Covers limit rows counts posts) (hrows : ∀ p ∈ rows, p ∈ rows')
    (hcounts : ∀ p ∈ rows', counts' p → p ∈ rows ∧ counts p) :
    Covers limit rows' counts' posts where
  sorted := h.sorted
  within := fun p hp => hrows p (h.within p hp)
  full := fun p hp hc => h.full p (hcounts p hp hc).1 (hcounts p hp hc).2

theorem Covers.take (h : Covers limit rows counts posts) (k : Nat) :
    Covers (min limit k) rows counts (posts.take k) where
  sorted := h.sorted.sublist (List.take_sublist ..)
  within := fun p hp => h.within p (List.mem_of_mem_take hp)
  full := by
    intro p hp hc
    rcases h.full p hp hc with hm | hl
    · exact (mem_take_or h.sorted k hm).imp_right fun hk => Nat.le_trans (Nat.min_le_right ..) hk
    · right
      have := ahead_take h.sorted k p
      omega

/-- A further row in its place counts from now on. -/
theorem Covers.insert (h : Covers limit rows counts posts) {p : Post} (hp : p ∈ rows)
    (hid : ∀ q ∈ posts, q.id ≠ p.id) :
    Covers limit rows (fun q => q = p ∨ counts q) (insertInOrder p posts) where
  sorted := pairwise_insertInOrder h.sorted hid
  within := by
    intro q hq
    rcases List.mem_cons.mp ((insertInOrder_perm p posts).mem_iff.mp hq) with rfl | hq
    · exact hp
    · exact h.within q hq
  full := by
    intro q hq hc
    have hmem : q = p ∨ q ∈ posts → q ∈ insertInOrder p posts := fun hm =>
      (insertInOrder_perm p posts).mem_iff.mpr (List.mem_cons.mpr hm)
    rcases hc with rfl | hc
    · exact .inl (hmem (.inl rfl))
    · rcases h.full q hq hc with hm | hl
      · exact .inl (hmem (.inr hm))
      · exact .inr (Nat.le_trans hl (ahead_insertInOrder q))

/-- Posts with one more in its place, as many as are kept of them; but those that have one of its id
stay as they are. -/
def grow (k : Nat) (p : Post) (posts : List Post) : List Post :=
  if ∃ q ∈ posts, q.id = p.id then posts else (insertInOrder p posts).take k

theorem length_grow_le (p : Post) {k n : Nat} (h : posts.length ≤ n) (hk : k ≤ n) :
    (grow k p posts).length ≤ n := by
  unfold grow
  split
  · exact h
  · exact Nat.le_trans (List.length_take_le ..) hk

/-- Posts and one more, unless one of its id is among them. -/
def adjoin (p : Post) (posts : List Post) : List Post :=
  if ∃ q ∈ posts, q.id = p.id then posts else p :: posts

/-- What is kept are the newest, but where a post that is there already finds too many. -/
theorem grow_eq_take {p : Post} {k : Nat} (h : posts.Pairwise fun a b => a.notOlder b)
    (hk : (∃ q ∈ posts, q.id = p.id) → posts.length ≤ k) :
    grow k p posts = (newestFirst (adjoin p posts)).take k := by
  unfold grow adjoin
  split
  next hknown => rw [newestFirst_of_pairwise h, List.take_of_length_le (hk hknown)]
  next hnew => rw [newestFirst_cons h fun q hq hqp => hnew ⟨q, hq, hqp⟩]

/-- A row that has come counts from now on. -/
theorem Covers.grow (h : Covers limit rows counts posts) {p : Post} (hp : p ∈ rows)
    (hid : ∀ q ∈ rows, q.id = p.id → q = p) {k : Nat} (hk : limit ≤ k) :
    Covers limit rows (fun q => q = p ∨ counts q) (Post.grow k p posts) := by
  unfold Post.grow
  split
  next hknown =>
    obtain ⟨q, hq, hqp⟩ := hknown
    refine ⟨h.sorted, h.within, fun r hr hc => hc.elim (fun he => .inl ?_) (h.full r hr)⟩
    rw [he, ← hid q (h.within q hq) hqp]
    exact hq
  next hnew =>
    have htake := (h.insert hp fun q hq hqp => hnew ⟨q, hq, hqp⟩).take k
    rwa [Nat.min_eq_left hk] at htake

/-- Where all rows count, a list that covers them starts with the newest. -/
theorem Covers.take_eq (h : Covers limit rows counts posts) (hids : rows.Pairwise (·.id ≠ ·.id))
    (hall : ∀ p ∈ rows, counts p) : posts.take limit = (newestFirst rows).take limit := by
  have hsorted := pairwise_newer_newestFirst hids
  have hmem (p : Post) : p ∈ newestFirst rows ↔ p ∈ rows := (newestFirst_perm rows).mem_iff
  have hsub : posts.Subperm (newestFirst rows) :=
    List.subperm_of_subset (nodup_of_newer h.sorted) fun p hp => (hmem p).mpr (h.within p hp)
  have htake : ∀ p ∈ (newestFirst rows).take limit, p ∈ posts.take limit := by
    intro p hp
    have hrow := List.mem_of_mem_take hp
    have hlt : ahead posts p < limit :=
      Nat.lt_of_le_of_lt (hsub.countP_le _) ((mem_take_iff hsorted limit hrow).mp hp)
    have hin : p ∈ posts :=
      (h.full p ((hmem p).mp hrow) (hall p ((hmem p).mp hrow))).resolve_right (Nat.not_le.mpr hlt)
    exact (mem_take_iff h.sorted limit hin).mpr hlt
  have hperm : ((newestFirst rows).take limit).Perm (posts.take limit) := by
    have hnodup := (nodup_of_newer hsorted).sublist (List.take_sublist limit _)
    refine (List.subperm_of_subset hnodup htake).perm_of_length_le ?_
    rw [List.length_take, List.length_take]
    have := hsub.length_le
    omega
  exact (eq_of_perm_of_newer hperm (hsorted.sublist (List.take_sublist ..))
    (h.sorted.sublist (List.take_sublist ..))).symm

end Timelines.Post
