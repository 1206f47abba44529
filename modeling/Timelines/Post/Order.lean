import Timelines.Post.Basic

/-! The order of timelines: the latest instant first, and of one instant the highest id. -/
namespace Timelines.Post

/-- `a` comes strictly before `b` in a timeline. -/
def newer (a b : Post) : Bool :=
  b.createdAt.nanos < a.createdAt.nanos ||
    (a.createdAt.nanos == b.createdAt.nanos && b.id.uuid.toNat < a.id.uuid.toNat)

/-- `a` may stand before `b` in a timeline. -/
def notOlder (a b : Post) : Bool := !b.newer a

/-- Posts in the order of a timeline; posts of one instant and id keep their places. -/
def newestFirst (posts : List Post) : List Post := posts.mergeSort notOlder

/-- A timeline with one more post, which goes before the first that is older. -/
def insertInOrder (p : Post) (posts : List Post) : List Post :=
  posts.takeWhile (fun q => !p.newer q) ++ p :: posts.dropWhile (fun q => !p.newer q)

theorem notOlder_trans (a b c : Post) (h : a.notOlder b) (h' : b.notOlder c) : a.notOlder c := by
  simp only [notOlder, newer, Bool.not_eq_true', Bool.or_eq_false_iff, decide_eq_false_iff_not,
    Bool.and_eq_false_iff, beq_eq_false_iff_ne] at *
  omega

theorem notOlder_total (a b : Post) : (a.notOlder b || b.notOlder a) := by
  simp only [notOlder, newer, Bool.or_eq_true, Bool.not_eq_true', Bool.or_eq_false_iff,
    decide_eq_false_iff_not, Bool.and_eq_false_iff, beq_eq_false_iff_ne] at *
  omega

theorem newestFirst_perm (posts : List Post) : (newestFirst posts).Perm posts :=
  List.mergeSort_perm ..

theorem pairwise_newestFirst (posts : List Post) :
    (newestFirst posts).Pairwise fun a b => a.notOlder b :=
  List.pairwise_mergeSort notOlder_trans notOlder_total posts

theorem newestFirst_of_pairwise {posts : List Post} (h : posts.Pairwise fun a b => a.notOlder b) :
    newestFirst posts = posts :=
  List.mergeSort_of_pairwise h

end Timelines.Post
