import Timelines.Proofs.Cache.Evictions

/-! Posts that are put into a slice.

A push leaves the newest of the posts that are there then, as many as it is told to keep. But where
it finds that the slice holds the post it does nothing, even if the slice is longer than that
(`push_trims_unless_known`).

Where all pushes are told to keep as many posts and a slice is there all the time, the slice shows
the newest of all posts that were in it or have come (`slice_of_pushing`). So it does not matter in
what order they came, or how often (`slice_congr_of_pushing`). -/
namespace Timelines.Cache

/-- The post that an operation puts into a user's slice. -/
def Operation.pushed? (u : UserId) : Operation → Option Post
  | .push w p _ => if w = u then some p else none
  | _ => none

/-- The posts that operations put into a user's slice. -/
def pushed (u : UserId) (os : List (Nat × Operation)) : List Post := os.filterMap (·.2.pushed? u)

/-- The writes of timelines and the questions for versions, but for those that cost a user the
slice. -/
def Operation.yields (u : UserId) : Operation → Bool
  | .push .. | .version _ => true
  | .invalidate w => w ≠ u
  | _ => false

namespace Store

/-- How many posts are kept of a slice into which one is put. -/
def kept (s : Store) (maxLength : Nat) : Nat := max 1 (min maxLength s.config.entries)

/-! ### One push -/

/-- A push into a slice that is not too old. -/
theorem find?_push_live {s : Store} {now : Nat} {u : UserId} {old : Slice}
    (hold : s.slices.find? u = some old) (he : s.expired now old = false) (p : Post)
    (maxLength : Nat) : (s.push now u p maxLength).slices.find? u =
      some { old with posts := Post.grow (s.kept maxLength) p old.posts } := by
  rw [find?_push_self, hold, Option.bind_some, if_neg (Bool.eq_false_iff.mp he)]
  rfl

/-- A push leaves a user a slice only where it finds one that is not too old. -/
theorem live_of_push {s : Store} {now : Nat} {u : UserId} {p : Post} {maxLength : Nat}
    {slice : Slice} (h : (s.push now u p maxLength).slices.find? u = some slice) :
    ∃ old, s.slices.find? u = some old ∧ s.expired now old = false := by
  rcases find?_push h with ⟨hne, -⟩ | ⟨-, old, hold, he, -⟩
  · exact absurd rfl hne
  · exact ⟨old, hold, he⟩

/-- **A push trims the slice, unless the slice holds the post.** After any operations on a cache, a
push leaves the slices of other users as they are. It drops the user's own slice if that is too old.
Otherwise the slice has no more posts than the push is told to keep, and these are the newest of
those that were there and the one that is put in; but a slice that holds the post already and is
longer than that stays as it is. -/
theorem push_trims_unless_known (config : Config) (before : List (Nat × Operation)) (now : Nat)
    (u : UserId) (p : Post) {maxLength : Nat} (hone : 1 ≤ maxLength) :
    let s := (create config).run before
    let t := s.push now u p maxLength
    (∀ v, v ≠ u → t.slices.find? v = s.slices.find? v) ∧
    ((t.slices.find? u).isSome ↔
      ∃ old, s.slices.find? u = some old ∧ s.expired now old = false) ∧
    ∀ old slice, s.slices.find? u = some old → t.slices.find? u = some slice →
      slice.storedAt = old.storedAt ∧
        if (∃ q ∈ old.posts, q.id = p.id) ∧ maxLength < old.posts.length then slice = old
        else slice.posts.length ≤ maxLength ∧ slice.posts =
          (Post.newestFirst (Post.adjoin p old.posts)).take
            (min maxLength (max 1 config.maxEntries)) := by
  intro s t
  obtain ⟨hconfig, hwell, -⟩ := wellformed_run config before
  refine ⟨fun v hv => find?_push_of_ne s now hv p maxLength, ⟨fun ht => ?_, ?_⟩, ?_⟩
  · obtain ⟨slice, hslice⟩ := Option.isSome_iff_exists.mp ht
    exact live_of_push hslice
  · rintro ⟨old, hold, he⟩
    rw [find?_push_live hold he, Option.isSome_some]
  · intro old slice hold hslice
    rcases find?_push hslice with ⟨hne, -⟩ | ⟨-, old', hold', -, rfl⟩
    · exact absurd rfl hne
    cases hold.symm.trans hold'
    have hentries : s.config.entries = max 1 config.maxEntries := by
      rw [show s.config = config from hconfig, Config.entries]
    have hlength : old.posts.length ≤ s.config.entries := hwell.bounded u old hold
    have hkept : max 1 (min maxLength s.config.entries) =
        min maxLength (max 1 config.maxEntries) := by
      omega
    refine ⟨rfl, ?_⟩
    split
    next hknown => rw [Post.grow, if_pos hknown.1]
    next hroom =>
      have hgrow := Post.grow_eq_take (p := p) (k := min maxLength (max 1 config.maxEntries))
        (hwell.sorted u old hold) fun hknown => by
          have hle : ¬maxLength < old.posts.length := fun hlt => hroom ⟨hknown, hlt⟩
          omega
      rw [hkept]
      refine ⟨?_, hgrow⟩
      rw [hgrow]
      exact Nat.le_trans (List.length_take_le ..) (Nat.min_le_left ..)

/-- A slice of two posts finds a third, and is to hold one. -/
theorem push_trims_unless_known_of_third :
    let bob : UserId := ⟨"bob"⟩
    let p : Nat → Post := fun id => { (default : Post) with id := ⟨.ofNat id⟩ }
    let s := (create ⟨10, 10, none⟩).run [(0, .set bob [p 1, p 3])]
    ∃ slice, (s.push 1 bob (p 2) 1).slices.find? bob = some slice ∧ slice.storedAt = 0 ∧
      slice.posts = [p 3] := by
  intro bob p s
  have hnewest : Post.newestFirst [p 1, p 3] = [p 3, p 1] :=
    Post.newestFirst_of_perm (by decide) (by decide)
  obtain ⟨-, hsome, hslice⟩ := push_trims_unless_known ⟨10, 10, none⟩
    [(0, .set bob [p 1, p 3])] 1 bob (p 2) (Nat.le_refl 1)
  have hold : s.slices.find? bob = some ⟨[p 3, p 1], 0⟩ := by
    simp only [s, run, after, store, hnewest]
    rfl
  obtain ⟨slice, ht⟩ := Option.isSome_iff_exists.mp (hsome.mpr ⟨_, hold, rfl⟩)
  obtain ⟨hstored, htrimmed⟩ := hslice _ slice hold ht
  rw [if_neg (by decide)] at htrimmed
  refine ⟨slice, ht, hstored, htrimmed.2.trans ?_⟩
  have hjoined : Post.newestFirst ((p 2).adjoin [p 3, p 1]) = [p 3, p 2, p 1] :=
    Post.newestFirst_of_perm (by decide) (by decide)
  rw [hjoined]
  rfl

/-- A slice of two posts, of which one is put in again, by a push that is to keep one. -/
theorem pushes_not_always_trimmed :
    ¬∀ (config : Config) (before : List (Nat × Operation)) (now : Nat) (u : UserId) (p : Post)
      (maxLength : Nat) (slice : Slice), 1 ≤ maxLength →
      (((create config).run before).push now u p maxLength).slices.find? u = some slice →
        slice.posts.length ≤ maxLength := by
  intro hall
  let p : Post := default
  let q : Post := { p with id := ⟨.ofNat 1⟩ }
  have hnewest : Post.newestFirst [p, q] = [q, p] :=
    Post.newestFirst_of_perm (by decide) (by decide)
  have hfind : (((create ⟨10, 10, none⟩).run [(0, .set ⟨"bob"⟩ [p, q])]).push 0 ⟨"bob"⟩ p
      1).slices.find? ⟨"bob"⟩ = some ⟨[q, p], 0⟩ := by
    simp only [run, after, store, hnewest]
    rfl
  exact absurd (hall _ _ _ _ _ 1 _ (Nat.le_refl 1) hfind) (by decide)

/-! ### A slice that is there all the time -/

/-- An operation that leaves a user the slice, and does not store it anew. -/
structure Spares (s : Store) (now : Nat) (o : Operation) (u : UserId) : Prop where
  stored : s.change now o ≠ .stored u
  dropped : s.change now o ≠ .dropped u
  cleared : s.change now o ≠ .cleared
  displaced : u ∉ s.displaced now o

/-- Operations that spare a user's slice, where those that put posts into it are told to keep so
many. -/
inductive Pushing (u : UserId) (maxLength : Nat) : Store → List (Nat × Operation) → Prop
  | nil (s : Store) : Pushing u maxLength s []
  | cons {s : Store} {now : Nat} {o : Operation} {os : List (Nat × Operation)} :
      s.Spares now o u → (∀ p bound, o = .push u p bound → bound = maxLength) →
      Pushing u maxLength (s.after now o) os → Pushing u maxLength s ((now, o) :: os)

section Pushing
variable {s : Store} {now : Nat} {o : Operation} {os : List (Nat × Operation)} {u : UserId}
  {slice : Slice} {maxLength : Nat}

/-- A slice that is spared is there. -/
theorem Spares.mem_keys (h : s.Spares now o u) (hu : u ∈ s.slices.keys) :
    u ∈ (s.after now o).slices.keys := by
  by_contra hlost
  have hkeys := keys_after s now o
  have huser : s.change now o ≠ .still → o.user? = (s.change now o).user? := user?_of_change
  rw [← keys_stamps] at hu
  cases hc : s.change now o with
  | stored w =>
    rw [hc] at hkeys huser
    have huser : o.user? = some w := huser Change.noConfusion
    by_cases hw : u = w
    · rw [hkeys, hw, Recency.mem_keys_iff, Change.apply, Recency.find?_put_self] at hlost
      exact hlost rfl
    · have hdisplaced := h.displaced
      simp only [Store.displaced, huser, List.mem_filter, decide_eq_true_eq] at hdisplaced
      exact hdisplaced ⟨keys_stamps s ▸ hu, hw, hlost⟩
  | found w =>
    rw [hkeys, hc, Change.apply, Recency.mem_keys_iff, Recency.find?_use,
      ← Recency.mem_keys_iff] at hlost
    exact hlost hu
  | dropped w =>
    have hw : u ≠ w := fun he => h.dropped (hc.trans (he ▸ rfl))
    rw [hkeys, hc, Change.apply, Recency.mem_keys_iff, Recency.find?_erase_of_ne _ hw,
      ← Recency.mem_keys_iff] at hlost
    exact hlost hu
  | cleared => exact h.cleared hc
  | still =>
    rw [hkeys, hc] at hlost
    exact hlost hu

/-- A slice that is spared is as it was, unless a post is put into it. -/
theorem Spares.find?_after (h : s.Spares now o u) (hs : s.slices.find? u = some slice)
    (ho : o.pushed? u = none) : (s.after now o).slices.find? u = some slice := by
  have hkeys := h.mem_keys (Recency.mem_keys_iff.mpr (hs ▸ rfl))
  have ht := touch_after s now o
  generalize (s.after now o).slices = m at hkeys ht
  rw [Recency.mem_keys_iff] at hkeys
  cases ht with
  | kept _ => exact hs
  | used w => rw [Recency.find?_use, hs]
  | @dropped _ w _ =>
    by_cases hw : u = w
    · rw [hw, Recency.find?_erase_self] at hkeys
      cases hkeys
    · rw [Recency.find?_erase_of_ne _ hw, hs]
  | @filled _ w posts hw hposts =>
    have hne : u ≠ w := by
      rintro rfl
      exact h.stored (change_of_stored? hposts hw)
    obtain ⟨found, hfound⟩ := Option.isSome_iff_exists.mp hkeys
    rw [hfound, ← Recency.find?_of_put_of_ne hne hfound, hs]
  | @grew w p bound old hold hnew =>
    have hne : u ≠ w := by
      rintro rfl
      simp [Operation.pushed?] at ho
    rw [Recency.find?_modify, if_neg hne, hs]
  | cleared => cases hkeys

theorem Spares.find?_after_of_pushed {p : Post} (h : s.Spares now o u)
    (hs : s.slices.find? u = some slice)
    (hbound : ∀ p bound, o = .push u p bound → bound = maxLength) (ho : o.pushed? u = some p) :
    (s.after now o).slices.find? u =
      some { slice with posts := Post.grow (s.kept maxLength) p slice.posts } := by
  cases o with
  | push w q bound =>
    obtain ⟨rfl, hq⟩ := Option.ite_none_right_eq_some.mp ho
    cases hq
    rw [hbound p bound rfl]
    -- A slice that is too old would not be spared.
    have he : s.expired now slice = false := by
      by_contra he
      have hdropped := h.dropped
      simp only [change, hs] at hdropped
      exact hdropped (if_pos (Bool.eq_true_of_not_eq_false he))
    exact find?_push_live hs he p maxLength
  | _ => cases ho

/-- A slice that is there all the time covers the posts that were in it or have come. -/
theorem covers_of_pushing {rows : List Post} {counts : Post → Prop}
    (h : s.Pushing u maxLength os) (hs : s.slices.find? u = some slice)
    (hcovers : Post.Covers (s.kept maxLength) rows counts slice.posts)
    (hlength : slice.posts.length ≤ s.kept maxLength)
    (hids : Post.KnownById rows) (hrows : ∀ p ∈ pushed u os, p ∈ rows) :
    ∃ posts, (s.run os).slices.find? u = some ⟨posts, slice.storedAt⟩ ∧
      posts.length ≤ s.kept maxLength ∧
      Post.Covers (s.kept maxLength) rows (fun p => p ∈ pushed u os ∨ counts p) posts := by
  induction h generalizing slice counts with
  | nil s =>
    refine ⟨slice.posts, hs, hlength, hcovers.mono (fun _ hp => hp) fun p hp hc => ⟨hp, ?_⟩⟩
    exact hc.resolve_left List.not_mem_nil
  | @cons s now o os hspares hbound _ ih =>
    have hkept : (s.after now o).kept maxLength = s.kept maxLength := by
      rw [kept, config_after, kept]
    rw [← hkept] at hcovers hlength ⊢
    cases ho : o.pushed? u with
    | none =>
      have hpushed : pushed u ((now, o) :: os) = pushed u os := List.filterMap_cons_none ho
      rw [hpushed] at hrows ⊢
      exact ih (hspares.find?_after hs ho) hcovers hlength hrows
    | some p =>
      have hpushed : pushed u ((now, o) :: os) = p :: pushed u os := List.filterMap_cons_some ho
      rw [hpushed] at hrows ⊢
      have hp := hrows p (List.mem_cons_self ..)
      obtain ⟨posts, hrun, hle, hall⟩ := ih (hspares.find?_after_of_pushed hs hbound ho)
        (hcovers.grow hp (hids p hp) (Nat.le_of_eq hkept))
        (Post.length_grow_le p hlength (Nat.le_of_eq hkept.symm))
        fun q hq => hrows q (List.mem_cons_of_mem _ hq)
      refine ⟨posts, hrun, hle, hall.mono (fun _ hq => hq) fun q hq hc => ⟨hq, ?_⟩⟩
      rw [List.mem_cons, or_assoc, or_left_comm] at hc
      exact hc

section Yields
variable (hs : s.slices.find? u = some slice) (ho : o.yields u)
  (hlive : ∀ p bound, o = .push u p bound → s.expired now slice = false)
include hs ho hlive

theorem change_of_yields :
    s.change now o = .still ∨ ∃ w, w ≠ u ∧ s.change now o = .dropped w := by
  cases o with
  | push w p bound =>
    by_cases hw : w = u
    · subst hw
      exact .inl (change_of_aside (.pushed p bound hs (hlive p bound rfl)))
    · simp only [change]
      split
      · split
        · exact .inr ⟨w, hw, rfl⟩
        · exact .inl rfl
      · exact .inl rfl
  | invalidate w =>
    simp only [change]
    split
    · exact .inr ⟨w, of_decide_eq_true ho, rfl⟩
    · exact .inl rfl
  | version w => exact .inl rfl
  | _ => cases ho

theorem find?_after_of_yields : ∃ slice', (s.after now o).slices.find? u = some slice' ∧
    slice'.storedAt = slice.storedAt := by
  cases o with
  | push w p bound =>
    by_cases hw : w = u
    · subst hw
      exact ⟨_, find?_push_live hs (hlive p bound rfl) p bound, rfl⟩
    · exact ⟨slice, (find?_push_of_ne s now (Ne.symm hw) p bound).trans hs, rfl⟩
  | invalidate w =>
    have hw : w ≠ u := of_decide_eq_true ho
    exact ⟨slice, (find?_invalidate_of_ne s (Ne.symm hw)).trans hs, rfl⟩
  | version w => exact ⟨slice, hs, rfl⟩
  | _ => cases ho

/-- A write of a timeline, or a question for a version, spares a slice that is not too old for
it. -/
theorem spares_of_yields : s.Spares now o u := by
  have hchange := change_of_yields hs ho hlive
  obtain ⟨slice', hslice, -⟩ := find?_after_of_yields hs ho hlive
  have hkeys : u ∈ (s.after now o).slices.keys := Recency.mem_keys_iff.mpr (hslice ▸ rfl)
  refine ⟨?_, ?_, ?_, fun hlost => ?_⟩
  · rcases hchange with hc | ⟨w, -, hc⟩ <;> rw [hc] <;> nofun
  · rcases hchange with hc | ⟨w, hw, hc⟩ <;> rw [hc]
    · nofun
    · exact fun he => hw (Change.dropped.inj he)
  · rcases hchange with hc | ⟨w, -, hc⟩ <;> rw [hc] <;> nofun
  · unfold displaced at hlost
    split at hlost
    · exact (of_decide_eq_true (List.mem_filter.mp hlost).2).2 hkeys
    · cases hlost

end Yields

/-- So do several, if no post comes too late. -/
theorem pushing_of_yields (hs : s.slices.find? u = some slice) (hos : ∀ o ∈ os, o.2.yields u)
    (hpush : ∀ o ∈ os, ∀ p bound, o.2 = .push u p bound →
      bound = maxLength ∧ s.expired o.1 slice = false) : s.Pushing u maxLength os := by
  induction os generalizing s slice with
  | nil => exact .nil s
  | cons o rest ih =>
    obtain ⟨now, o⟩ := o
    obtain ⟨hyields, hrest⟩ := List.forall_mem_cons.mp hos
    obtain ⟨hown, hpush⟩ := List.forall_mem_cons.mp hpush
    have hlive : ∀ p bound, o = .push u p bound → s.expired now slice = false :=
      fun p bound hp => (hown p bound hp).2
    obtain ⟨slice', hafter, hstored⟩ := find?_after_of_yields hs hyields hlive
    refine .cons (spares_of_yields hs hyields hlive) (fun p bound hp => (hown p bound hp).1)
      (ih hafter hrest ?_)
    intro o ho p bound hp
    refine ⟨(hpush o ho p bound hp).1, ?_⟩
    rw [expired, config_after, hstored]
    exact (hpush o ho p bound hp).2

/-- A slice that is there all the time shows the newest of the posts that it had or that have
come. -/
theorem slice_of_pushing (h : s.Pushing u maxLength os) (hs : s.slices.find? u = some slice)
    (hsorted : slice.posts.Pairwise fun a b => a.notOlder b)
    (hids : slice.posts.Pairwise (·.id ≠ ·.id))
    (hlength : slice.posts.length ≤ s.kept maxLength)
    (hknown : Post.KnownById (slice.posts ++ pushed u os)) :
    (s.run os).slices.find? u =
      some ⟨(Post.newestFirst (slice.posts ++ pushed u os).dedup).take (s.kept maxLength),
        slice.storedAt⟩ := by
  have hrows := hknown.mono fun p (hp : p ∈ (slice.posts ++ pushed u os).dedup) =>
    List.mem_dedup.mp hp
  have hmem (p : Post) :
      p ∈ (slice.posts ++ pushed u os).dedup ↔ p ∈ slice.posts ∨ p ∈ pushed u os :=
    List.mem_dedup.trans List.mem_append
  have hstart : Post.Covers (s.kept maxLength) (slice.posts ++ pushed u os).dedup (· ∈ slice.posts)
      slice.posts :=
    ⟨hsorted.imp₂ (fun _ _ => Post.newer_of_notOlder) hids, fun p hp => (hmem p).mpr (.inl hp),
      fun _ _ hp => .inl hp⟩
  obtain ⟨posts, hrun, hle, hcovers⟩ := covers_of_pushing h hs hstart hlength hrows
    fun p hp => (hmem p).mpr (.inr hp)
  have htake := hcovers.take_eq (hrows.pairwise (List.nodup_dedup _)) fun p hp =>
    ((hmem p).mp hp).symm
  rw [List.take_of_length_le hle] at htake
  rw [hrun, htake]

/-- Slices into which the same posts are put come to be the same. -/
theorem slice_congr_of_pushing {os' : List (Nat × Operation)} (h : s.Pushing u maxLength os)
    (h' : s.Pushing u maxLength os') (hs : s.slices.find? u = some slice)
    (hsorted : slice.posts.Pairwise fun a b => a.notOlder b)
    (hids : slice.posts.Pairwise (·.id ≠ ·.id))
    (hlength : slice.posts.length ≤ s.kept maxLength)
    (hknown : Post.KnownById (slice.posts ++ pushed u os))
    (hsame : ∀ p, p ∈ pushed u os ↔ p ∈ pushed u os') :
    (s.run os).slices.find? u = (s.run os').slices.find? u := by
  have hmem (p : Post) : p ∈ slice.posts ++ pushed u os' ↔ p ∈ slice.posts ++ pushed u os := by
    rw [List.mem_append, List.mem_append, hsame]
  have hknown' := hknown.mono fun p => (hmem p).mp
  have hnewest : Post.newestFirst (slice.posts ++ pushed u os).dedup =
      Post.newestFirst (slice.posts ++ pushed u os').dedup := by
    refine Post.newestFirst_congr ?_ ?_ fun p => ?_
    · exact (hknown.mono fun p hp => List.mem_dedup.mp hp).pairwise (List.nodup_dedup _)
    · exact (hknown'.mono fun p hp => List.mem_dedup.mp hp).pairwise (List.nodup_dedup _)
    · rw [List.mem_dedup, List.mem_dedup, hmem]
  rw [slice_of_pushing h hs hsorted hids hlength hknown, hnewest,
    slice_of_pushing h' hs hsorted hids hlength hknown']

end Pushing
end Store
end Timelines.Cache
