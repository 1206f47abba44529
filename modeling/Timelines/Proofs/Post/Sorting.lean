import Mathlib.Data.Int.Order.Basic
import Mathlib.Data.List.Pairwise
import Mathlib.Data.Prod.Lex
import Timelines.Post.Order

/-! Sorting posts, and cutting what is sorted.

A post's rank is its instant and then its id; how the instant was written has no say. A timeline
goes down the ranks (`pairwise_newestFirst_rank`), and posts of one rank stay in it as they came
(`ofRank_newestFirst`). No other list does both (`eq_of_ofRank`), so that two lists behind each
other are sorted by sorting each and merging them (`newestFirst_append`). A merge takes nothing from
behind the place where it is cut: as many of the first list as are to be kept in the end will do
(`take_newestFirst_append`), and a list that is cut after each post that is put in its place ends as
if it were cut once (`foldl_insertInOrder`). -/
namespace Timelines.Post

/-! ### Ranks -/

/-- Where a post belongs in a timeline: by its instant, and of one instant by its id. -/
def rank (p : Post) : Int ×ₗ Nat := toLex (p.createdAt.nanos, p.id.uuid.toNat)

variable {a b : Post} {xs ys : List Post}

theorem rank_eq_iff : a.rank = b.rank ↔ a.createdAt.nanos = b.createdAt.nanos ∧ a.id = b.id := by
  have hid : a.id.uuid.toNat = b.id.uuid.toNat ↔ a.id = b.id := by
    refine ⟨fun h => ?_, fun h => by rw [h]⟩
    show PostId.mk ⟨a.id.uuid.bits⟩ = ⟨⟨b.id.uuid.bits⟩⟩
    rw [BitVec.eq_of_toNat_eq h]
  rw [rank, rank, toLex_inj, Prod.mk.injEq, hid]

theorem newer_iff : a.newer b ↔ b.rank < a.rank := by
  rw [rank, rank, Prod.Lex.toLex_lt_toLex, newer, Bool.or_eq_true, Bool.and_eq_true,
    decide_eq_true_iff, decide_eq_true_iff, beq_iff_eq, @eq_comm _ a.createdAt.nanos]

theorem notOlder_iff : a.notOlder b ↔ b.rank ≤ a.rank := by
  rw [notOlder, Bool.not_eq_true', ← Bool.not_eq_true, newer_iff, not_lt]

theorem notOlder_of_newer (h : a.newer b) : a.notOlder b :=
  notOlder_iff.mpr (newer_iff.mp h).le

theorem pairwise_notOlder_iff :
    (xs.Pairwise fun a b => a.notOlder b) ↔ xs.Pairwise fun a b => b.rank ≤ a.rank := by
  simp only [notOlder_iff]

/-- A timeline goes down the ranks. -/
theorem pairwise_newestFirst_rank (xs : List Post) :
    (newestFirst xs).Pairwise fun a b => b.rank ≤ a.rank :=
  pairwise_notOlder_iff.mp (pairwise_newestFirst xs)

/-- So does what is kept of it. -/
theorem pairwise_take_newestFirst (xs : List Post) (n : Nat) :
    ((newestFirst xs).take n).Pairwise fun a b => a.notOlder b :=
  (pairwise_newestFirst xs).sublist (List.take_sublist ..)

/-! ### Posts of one rank -/

/-- The posts of a rank, in the order in which they are found. -/
def ofRank (r : Int ×ₗ Nat) (posts : List Post) : List Post := posts.filter (·.rank = r)

theorem mem_ofRank {r : Int ×ₗ Nat} : a ∈ ofRank r xs ↔ a ∈ xs ∧ a.rank = r := by
  rw [ofRank, List.mem_filter, decide_eq_true_iff]

theorem ofRank_cons (r : Int ×ₗ Nat) (a : Post) (xs : List Post) :
    ofRank r (a :: xs) = if a.rank = r then a :: ofRank r xs else ofRank r xs := by
  simp only [ofRank, List.filter_cons, decide_eq_true_eq]

theorem ofRank_append (r : Int ×ₗ Nat) (xs ys : List Post) :
    ofRank r (xs ++ ys) = ofRank r xs ++ ofRank r ys :=
  List.filter_append ..

theorem ofRank_eq_nil {r : Int ×ₗ Nat} (h : ∀ p ∈ xs, p.rank ≠ r) : ofRank r xs = [] :=
  List.filter_eq_nil_iff.mpr fun p hp hr => h p hp (of_decide_eq_true hr)

theorem mem_iff_of_ofRank (h : ∀ r, ofRank r xs = ofRank r ys) (p : Post) : p ∈ xs ↔ p ∈ ys := by
  have hp := congrArg (p ∈ ·) (h p.rank)
  simpa only [mem_ofRank, and_true, eq_iff_iff] using hp

/-- Posts of one rank stay as they came. -/
theorem ofRank_newestFirst (r : Int ×ₗ Nat) (xs : List Post) :
    ofRank r (newestFirst xs) = ofRank r xs := by
  have hsorted : (ofRank r xs).Pairwise fun a b => a.notOlder b := by
    refine List.pairwise_of_forall_mem_list fun a ha b hb => ?_
    rw [notOlder_iff, (mem_ofRank.mp ha).2, (mem_ofRank.mp hb).2]
  have hsub : (ofRank r xs).Sublist (newestFirst xs) :=
    List.sublist_mergeSort notOlder_trans notOlder_total hsorted List.filter_sublist
  have hkept : (ofRank r xs).Sublist (ofRank r (newestFirst xs)) := by
    have hself : ofRank r (ofRank r xs) = ofRank r xs := by
      simp only [ofRank, List.filter_filter, Bool.and_self]
    rw [← hself]
    exact hsub.filter _
  exact (hkept.eq_of_length ((newestFirst_perm xs).filter _).length_eq.symm).symm

/-- Lists that go down the ranks and have the posts of each rank alike are the same. -/
theorem eq_of_ofRank (hx : xs.Pairwise fun a b => b.rank ≤ a.rank)
    (hy : ys.Pairwise fun a b => b.rank ≤ a.rank) (h : ∀ r, ofRank r xs = ofRank r ys) :
    xs = ys := by
  induction xs generalizing ys with
  | nil => exact (List.eq_nil_iff_forall_not_mem.mpr fun p hp =>
      List.not_mem_nil ((mem_iff_of_ofRank h p).mpr hp)).symm
  | cons a xs ih =>
    cases ys with
    | nil => cases (mem_iff_of_ofRank h a).mp (List.mem_cons_self ..)
    | cons b ys =>
      obtain ⟨ha, hxs⟩ := List.pairwise_cons.mp hx
      obtain ⟨hb, hys⟩ := List.pairwise_cons.mp hy
      -- Each list has the first post of the other, so that both start with the same rank.
      have hab : a.rank ≤ b.rank := by
        rcases List.mem_cons.mp ((mem_iff_of_ofRank h a).mp (List.mem_cons_self ..)) with hin | hin
        · rw [hin]
        · exact hb a hin
      have hba : b.rank ≤ a.rank := by
        rcases List.mem_cons.mp ((mem_iff_of_ofRank h b).mpr (List.mem_cons_self ..)) with hin | hin
        · rw [hin]
        · exact ha b hin
      have hrank : b.rank = a.rank := le_antisymm hba hab
      have hfirst := h a.rank
      rw [ofRank_cons, ofRank_cons, if_pos rfl, if_pos hrank] at hfirst
      obtain ⟨rfl, hrest⟩ := List.cons.inj hfirst
      have htail : xs = ys := by
        refine ih hxs hys fun r => ?_
        by_cases hr : a.rank = r
        · rw [← hr, hrest]
        · have hother := h r
          rwa [ofRank_cons, ofRank_cons, if_neg hr, if_neg hr] at hother
      rw [htail]

/-- How the posts of different ranks came does not matter. -/
theorem newestFirst_congr_of_ofRank (h : ∀ r, ofRank r xs = ofRank r ys) :
    newestFirst xs = newestFirst ys :=
  eq_of_ofRank (pairwise_newestFirst_rank xs) (pairwise_newestFirst_rank ys) fun r => by
    rw [ofRank_newestFirst, ofRank_newestFirst, h]

/-- Where each post has a rank of its own, it does not matter how they came. -/
theorem newestFirst_congr_of_rank (hx : xs.Pairwise (·.rank ≠ ·.rank))
    (hy : ys.Pairwise (·.rank ≠ ·.rank)) (hmem : ∀ p, p ∈ xs ↔ p ∈ ys) :
    newestFirst xs = newestFirst ys := by
  have hnodup {zs : List Post} (h : zs.Pairwise (·.rank ≠ ·.rank)) : zs.Nodup :=
    h.imp fun hne he => hne (congrArg rank he)
  have hperm : (newestFirst xs).Perm (newestFirst ys) :=
    calc (newestFirst xs).Perm xs := newestFirst_perm xs
      xs.Perm ys := (List.perm_ext_iff_of_nodup (hnodup hx) (hnodup hy)).mpr hmem
      ys.Perm (newestFirst ys) := (newestFirst_perm ys).symm
  refine hperm.eq_of_pairwise (fun a b ha hb hba hab => ?_) (pairwise_newestFirst_rank xs)
    (pairwise_newestFirst_rank ys)
  have ha : a ∈ xs := (newestFirst_perm xs).mem_iff.mp ha
  have hb : b ∈ xs := (hmem b).mpr ((newestFirst_perm ys).mem_iff.mp hb)
  have hsymm : Std.Symm fun a b : Post => a.rank ≠ b.rank := ⟨fun _ _ => Ne.symm⟩
  by_contra hne
  exact hx.forall ha hb hne (le_antisymm hab hba)

/-! ### Merging -/

/-- Of posts of one rank those of the first list stay before those of the second. -/
theorem ofRank_merge (hx : xs.Pairwise fun a b => b.rank ≤ a.rank) (ys : List Post)
    (r : Int ×ₗ Nat) : ofRank r (xs.merge ys notOlder) = ofRank r xs ++ ofRank r ys := by
  induction xs generalizing ys with
  | nil =>
    rw [List.nil_merge]
    rfl
  | cons a xs iha =>
    obtain ⟨ha, hxs⟩ := List.pairwise_cons.mp hx
    induction ys with
    | nil =>
      rw [List.merge_right]
      exact (List.append_nil _).symm
    | cons b ys ihb =>
      rw [List.cons_merge_cons]
      split
      next hab =>
        rw [ofRank_cons, iha hxs, ofRank_cons r a]
        split
        · rfl
        · rfl
      next hba =>
        rw [ofRank_cons, ihb, ofRank_cons r b]
        split
        next hr =>
          -- All posts of the first list are older.
          have hlt : a.rank < b.rank := by rwa [notOlder_iff, not_le] at hba
          have hnone : ofRank r (a :: xs) = [] := by
            refine ofRank_eq_nil fun p hp => hr ▸ ne_of_lt ?_
            rcases List.mem_cons.mp hp with rfl | hp
            · exact hlt
            · exact (ha p hp).trans_lt hlt
          rw [hnone]
          rfl
        · rfl

/-- To sort two lists behind each other is to sort each and to merge them. -/
theorem newestFirst_append (xs ys : List Post) :
    newestFirst (xs ++ ys) = (newestFirst xs).merge (newestFirst ys) notOlder := by
  refine eq_of_ofRank (pairwise_newestFirst_rank _) ?_ fun r => ?_
  · exact pairwise_notOlder_iff.mp (List.pairwise_merge notOlder_trans notOlder_total _ _
      (pairwise_newestFirst xs) (pairwise_newestFirst ys))
  · rw [ofRank_newestFirst, ofRank_append, ofRank_merge (pairwise_newestFirst_rank xs),
      ofRank_newestFirst, ofRank_newestFirst]

/-- The first of a merge come from the first of its lists. -/
theorem take_merge_take (xs ys : List Post) {k n : Nat} (h : k ≤ n) :
    ((xs.take n).merge ys notOlder).take k = (xs.merge ys notOlder).take k := by
  induction xs generalizing ys k n with
  | nil => rw [List.take_nil]
  | cons a xs iha =>
    induction ys generalizing k with
    | nil => rw [List.merge_right, List.merge_right, List.take_take, Nat.min_eq_left h]
    | cons b ys ihb =>
      cases k with
      | zero => rfl
      | succ k =>
        cases n with
        | zero => cases h
        | succ n =>
          rw [List.take_succ_cons, List.cons_merge_cons, List.cons_merge_cons]
          split
          · rw [List.take_succ_cons, List.take_succ_cons, iha (b :: ys) (Nat.le_of_succ_le_succ h)]
          · rw [List.take_succ_cons, List.take_succ_cons, ← ihb (Nat.le_of_succ_le h),
              List.take_succ_cons]

/-- Nothing is lost where a list is sorted and cut before others are sorted in with it. -/
theorem take_newestFirst_append (xs ys : List Post) {k n : Nat} (h : k ≤ n) :
    (newestFirst ((newestFirst xs).take n ++ ys)).take k = (newestFirst (xs ++ ys)).take k := by
  have hsorted : newestFirst ((newestFirst xs).take n) = (newestFirst xs).take n :=
    newestFirst_of_pairwise (pairwise_take_newestFirst xs n)
  calc (newestFirst ((newestFirst xs).take n ++ ys)).take k
      = (((newestFirst xs).take n).merge (newestFirst ys) notOlder).take k := by
        rw [newestFirst_append, hsorted]
    _ = ((newestFirst xs).merge (newestFirst ys) notOlder).take k := take_merge_take _ _ h
    _ = (newestFirst (xs ++ ys)).take k := by rw [newestFirst_append]

/-! ### One post after another -/

theorem insertInOrder_cons (p q : Post) (posts : List Post) :
    insertInOrder p (q :: posts) =
      if p.newer q then p :: q :: posts else q :: insertInOrder p posts := by
  unfold insertInOrder
  by_cases h : p.newer q <;> simp [h]

/-- A post goes behind those of its rank, as the last of a merge does. -/
theorem insertInOrder_eq_merge (p : Post) (posts : List Post) :
    insertInOrder p posts = posts.merge [p] notOlder := by
  induction posts with
  | nil => rw [List.nil_merge]; rfl
  | cons q posts ih =>
    rw [insertInOrder_cons, List.cons_merge_cons, List.merge_right, ih, notOlder]
    cases p.newer q
    · rfl
    · rfl

theorem insertInOrder_newestFirst (p : Post) (posts : List Post) :
    insertInOrder p (newestFirst posts) = newestFirst (posts ++ [p]) := by
  rw [insertInOrder_eq_merge, newestFirst_append,
    newestFirst_of_pairwise (List.pairwise_singleton _ p)]

/-- Posts put in one after another, with a cut after each, come to the first of them all. -/
theorem foldl_insertInOrder (k : Nat) (posts more : List Post) :
    more.foldl (fun kept p => (insertInOrder p kept).take k) ((newestFirst posts).take k) =
      (newestFirst (posts ++ more)).take k := by
  induction more generalizing posts with
  | nil => rw [List.append_nil]; rfl
  | cons p more ih =>
    have hstep : (insertInOrder p ((newestFirst posts).take k)).take k =
        (newestFirst (posts ++ [p])).take k := by
      rw [insertInOrder_eq_merge, take_merge_take _ _ (Nat.le_refl k), ← insertInOrder_eq_merge,
        insertInOrder_newestFirst]
    rw [List.foldl_cons, hstep, ih, List.append_assoc]
    rfl

/-- **Cuts lose nothing.** Of posts that are sorted, cut to the first `k` and sorted again with
others behind them, the first `k` are the first `k` of all, post for post, whichever of them tie.
To sort is to rearrange: down the ranks, with the posts of each rank as they came. Where each post
has a rank of its own, only which posts there are tells how they are sorted. -/
theorem cuts_lose_nothing (xs ys : List Post) (k : Nat) :
    (newestFirst ((newestFirst xs).take k ++ ys)).take k = (newestFirst (xs ++ ys)).take k ∧
      (newestFirst xs).Perm xs ∧
      (newestFirst xs).Pairwise (fun a b => b.rank ≤ a.rank) ∧
      (∀ r, ofRank r (newestFirst xs) = ofRank r xs) ∧
      (xs.Pairwise (·.rank ≠ ·.rank) → ys.Pairwise (·.rank ≠ ·.rank) → (∀ p, p ∈ xs ↔ p ∈ ys) →
        newestFirst xs = newestFirst ys) :=
  ⟨take_newestFirst_append xs ys (Nat.le_refl k), newestFirst_perm xs, pairwise_newestFirst_rank xs,
    fun r => ofRank_newestFirst r xs, newestFirst_congr_of_rank⟩

/-- Two posts of one instant and id, written down in different places, and a later one: it does not
matter which of the later and the eastern one came first, and the western one, sorted in last, stays
behind the eastern one. -/
theorem cuts_lose_nothing_of_tied :
    let east : Post := { (default : Post) with createdAt := ⟨0, 120⟩ }
    let west : Post := { (default : Post) with createdAt := ⟨0, -300⟩ }
    let later : Post := { (default : Post) with createdAt := ⟨1, 0⟩ }
    east.rank = west.rank ∧ [east, later].Pairwise (·.rank ≠ ·.rank) ∧
      [later, east].Pairwise (·.rank ≠ ·.rank) ∧ (∀ p, p ∈ [east, later] ↔ p ∈ [later, east]) ∧
      newestFirst [east, later] = newestFirst [later, east] ∧
      (newestFirst ((newestFirst [east, later]).take 2 ++ [west])).take 2 = [later, east] := by
  intro east west later
  have hfirst : [east, later].Pairwise (·.rank ≠ ·.rank) := by decide
  have hsecond : [later, east].Pairwise (·.rank ≠ ·.rank) := by decide
  have hsame : ∀ p, p ∈ [east, later] ↔ p ∈ [later, east] := fun p =>
    (List.Perm.swap later east []).mem_iff
  refine ⟨rfl, hfirst, hsecond, hsame, ?_, ?_⟩
  · exact (cuts_lose_nothing [east, later] [later, east] 2).2.2.2.2 hfirst hsecond hsame
  · have hcut := (cuts_lose_nothing [east, later] [west] 2).1
    have hput := foldl_insertInOrder 2 [] [east, later, west]
    rw [newestFirst_of_pairwise .nil] at hput
    exact hcut.trans hput.symm

end Timelines.Post
