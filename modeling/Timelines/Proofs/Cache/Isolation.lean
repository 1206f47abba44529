import Timelines.Proofs.Cache.Cell

/-! Users do not see each other in the cache.

`answers_isolated`: as long as there is room for all users, the cache answers to the operations on
one of them what a cell of that user alone answers, whatever is done for the others in between. The
versions differ: the cache numbers the writes of all users in one row, a cell counts its own. A
version that the user was told is the place of a write of the user in that row, so the two say the
same (`rank`), and in the same order.

The proof keeps a cell beside the cache that mirrors it (`Mirrors`), step by step. -/
namespace Timelines.Cache

/-- The operations on a user, and those on all. -/
def Operation.concerns (u : UserId) (o : Operation) : Bool := o.user?.all (· = u)

/-- The same operation, where versions have other numbers. -/
def Operation.renumber (f : Nat → Nat) : Operation → Operation
  | refill u posts v => refill u posts (f v)
  | o => o

/-- The same answer, where versions have other numbers. -/
def Answer.renumber (f : Nat → Nat) : Answer → Answer
  | version v => version (f v)
  | a => a

/-- The users whose timelines operations wrote, in order. -/
def written (os : List (Nat × Operation)) : List UserId := os.filterMap (·.2.written?)

/-- How many of the first so many writes were of a user. -/
def rank (writes : List UserId) (u : UserId) (v : Nat) : Nat := (writes.take v).count u

/-- Those of some operations that concern a user, where versions have other numbers. -/
def own (u : UserId) (f : Nat → Nat) (os : List (Nat × Operation)) : List (Nat × Operation) :=
  (os.filter (·.2.concerns u)).map fun o => (o.1, o.2.renumber f)

theorem written_cons (o : Nat × Operation) (os : List (Nat × Operation)) :
    written (o :: os) = o.2.written?.toList ++ written os := by
  rw [written, List.filterMap_cons]
  cases o.2.written? <;> rfl

theorem own_cons (u : UserId) (f : Nat → Nat) (o : Nat × Operation) (os : List (Nat × Operation)) :
    own u f (o :: os) =
      (if o.2.concerns u then [(o.1, o.2.renumber f)] else []) ++ own u f os := by
  rw [own, List.filter_cons]
  split <;> rfl

namespace Store

def answer (s : Store) (now : Nat) : Operation → Answer
  | .get u => .posts (s.get now u).1
  | .version u => .version (s.version u).1
  | .refill u posts version => .accepted (s.refill now u posts version).1
  | _ => .done

/-- What a cache answers to those of some operations that concern a user. -/
def answers (s : Store) (u : UserId) : List (Nat × Operation) → List Answer
  | [] => []
  | (now, o) :: rest =>
    (if o.concerns u then [s.answer now o] else []) ++ (s.after now o).answers u rest

end Store

/-! ### Versions as places -/

/-- A version that the user can have been told: none yet, or the place of a write of the user. -/
def Stamp (writes : List UserId) (u : UserId) (v : Nat) : Prop :=
  v = 0 ∨ ∃ i, v = i + 1 ∧ writes[i]? = some u

section Stamp
variable {writes : List UserId} {u : UserId} {v w : Nat}

theorem Stamp.le (h : Stamp writes u v) : v ≤ writes.length := by
  rcases h with rfl | ⟨i, rfl, hi⟩
  · exact Nat.zero_le _
  · exact (List.getElem?_eq_some_iff.mp hi).1

theorem Stamp.append (h : Stamp writes u v) (more : List UserId) : Stamp (writes ++ more) u v := by
  rcases h with rfl | ⟨i, rfl, hi⟩
  · exact .inl rfl
  · refine .inr ⟨i, rfl, ?_⟩
    rwa [List.getElem?_append_left (List.getElem?_eq_some_iff.mp hi).1]

theorem rank_append (h : v ≤ writes.length) (more : List UserId) :
    rank (writes ++ more) u v = rank writes u v := by
  rw [rank, rank, List.take_append_of_le_length h]

theorem rank_mono (h : v ≤ w) : rank writes u v ≤ rank writes u w :=
  (List.take_sublist_take_left h).count_le u

/-- A version told is above all that come before it. -/
theorem rank_lt (h : Stamp writes u w) (hv : v < w) : rank writes u v < rank writes u w := by
  rcases h with rfl | ⟨i, rfl, hi⟩
  · cases hv
  · have hle : rank writes u v ≤ rank writes u i := rank_mono (Nat.le_of_lt_succ hv)
    rw [rank, rank, List.take_add_one, hi, Option.toList_some, List.count_append]
    rw [rank, rank] at hle
    have : [u].count u = 1 := List.count_singleton_self ..
    omega

theorem rank_lt_iff (hw : Stamp writes u w) : rank writes u v < rank writes u w ↔ v < w := by
  refine ⟨fun h => ?_, rank_lt hw⟩
  rcases Nat.lt_or_ge v w with hlt | hle
  · exact hlt
  · exact absurd (rank_mono hle) (Nat.not_le.mpr h)

theorem rank_eq_iff (hv : Stamp writes u v) (hw : Stamp writes u w) :
    rank writes u v = rank writes u w ↔ v = w := by
  have h := rank_lt_iff (v := v) hw
  have h' := rank_lt_iff (v := w) hv
  omega

end Stamp

namespace Store

/-! ### Room for all -/

/-- All users in the cache are among so few that none has to make room for another. -/
structure Roomy (users : List UserId) (s : Store) : Prop where
  room : users.dedup.length ≤ s.config.users
  wellformed : s.Wellformed
  slices : ∀ w ∈ s.slices.keys, w ∈ users
  versions : ∀ w ∈ s.versions.current.keys, w ∈ users

section Roomy
variable {users : List UserId} {s : Store} {now : Nat} {o : Operation}

theorem mem_keys_of_touch {m : Recency UserId Slice} (h : Touch s now o m) {w : UserId}
    (hw : w ∈ m.keys) : o.user? = some w ∨ w ∈ s.slices.keys := by
  cases h with
  | kept _ => exact .inr hw
  | used _ => exact .inr (Recency.mem_keys_of_mem_use hw)
  | dropped _ =>
    rw [Recency.keys_erase] at hw
    exact .inr (List.mem_filter.mp hw).1
  | filled hu _ =>
    rcases Recency.mem_keys_of_mem_put hw with rfl | hw
    · exact .inl hu
    · exact .inr hw
  | grew _ _ =>
    rw [Recency.keys_modify] at hw
    exact .inr hw
  | cleared => cases hw

theorem Roomy.after (h : Roomy users s) (ho : ∀ w, o.user? = some w → w ∈ users) :
    Roomy users (s.after now o) where
  room := config_after s now o ▸ h.room
  wellformed := wellformed_after h.wellformed now o
  slices := fun w hw => (mem_keys_of_touch (touch_after s now o) hw).elim (ho w) (h.slices w)
  versions := by
    intro w hw
    rcases current_after s now o with he | ⟨u, hu, he | ⟨v, he⟩⟩ <;> rw [he] at hw
    · exact h.versions w hw
    · exact h.versions w (Recency.mem_keys_of_mem_use hw)
    · rcases Recency.mem_keys_of_mem_put hw with rfl | hw
      · exact ho w hu
      · exact h.versions w hw

/-- What is done for another user leaves a user's slice. -/
theorem Roomy.find?_after (h : Roomy users s) {u w : UserId} (ho : o.user? = some w)
    (hw : w ∈ users) (hne : u ≠ w) :
    (s.after now o).slices.find? u = s.slices.find? u := by
  have ht := touch_after s now o
  generalize (s.after now o).slices = m at ht
  cases ht with
  | kept _ => rfl
  | used _ => exact Recency.find?_use ..
  | dropped hu =>
    cases ho.symm.trans hu
    exact Recency.find?_erase_of_ne _ hne
  | filled hu _ =>
    cases ho.symm.trans hu
    have hv := Recency.victim?_eq_none h.wellformed.slices_nodup h.slices hw h.room
    rcases Recency.find?_put_of_ne s.slices s.config.users _ hne with he | ⟨-, d, hd, -⟩
    · exact he
    · rw [hv] at hd
      cases hd
  | grew _ _ =>
    cases ho
    rw [Recency.find?_modify, if_neg hne]
  | cleared => cases ho

/-- A user's version changes when the user's timeline is written. -/
theorem Roomy.told_after (h : Roomy users s) (now : Nat)
    (ho : ∀ w, o.user? = some w → w ∈ users) (u : UserId) :
    (s.after now o).versions.told u =
      if o.written? = some u then s.versions.lastIssued + 1 else s.versions.told u := by
  have hvictim (w : UserId) (hw : o.user? = some w) :
      s.versions.current.victim? s.config.users w = none :=
    Recency.victim?_eq_none h.wellformed.versions_nodup h.versions (ho w hw) h.room
  have advance (w : UserId) (hw : o.user? = some w) :
      (s.versions.advance s.config.users w).told u =
        if some w = some u then s.versions.lastIssued + 1 else s.versions.told u := by
    split
    next he =>
      cases he
      exact Versions.told_track_self ..
    next hne =>
      have hne : u ≠ w := fun he => hne (congrArg some he.symm)
      exact Versions.told_track_of_ne _ _ hne _ (hvictim w hw)
  have ask (w : UserId) (hw : o.user? = some w) :
      (s.versions.ask s.config.users w).2.told u = s.versions.told u :=
    Versions.told_ask_of_room _ _ (hvictim w hw) u
  rw [versions_after]
  cases o with
  | push w p maxLength => exact advance w rfl
  | invalidate w => exact advance w rfl
  | version w => exact ask w rfl
  | refill w posts version => exact ask w rfl
  | _ => rfl

end Roomy

/-! ### The versions of a user -/

/-- After so many writes a user's version is the place of the user's last one. -/
structure Numbered (u : UserId) (writes : List UserId) (s : Store) : Prop where
  issued : s.versions.lastIssued = writes.length
  stamp : Stamp writes u (s.versions.told u)
  latest : rank writes u (s.versions.told u) = writes.count u

theorem numbered_create (config : Config) (u : UserId) : Numbered u [] (create config) :=
  ⟨rfl, .inl rfl, rfl⟩

theorem Numbered.after {users : List UserId} {u : UserId} {writes : List UserId} {s : Store}
    (h : Numbered u writes s) (hs : Roomy users s) (now : Nat) {o : Operation}
    (ho : ∀ w, o.user? = some w → w ∈ users) :
    Numbered u (writes ++ o.written?.toList) (s.after now o) := by
  have hissued := lastIssued_after s now o
  have htold := hs.told_after now ho u
  cases hw : o.written? with
  | none =>
    rw [hw, if_neg nofun] at htold
    simp only [hw, Option.isSome_none, Bool.false_eq_true, if_false, Nat.add_zero] at hissued
    rw [Option.toList_none, List.append_nil]
    exact ⟨hissued.trans h.issued, htold ▸ h.stamp, htold ▸ h.latest⟩
  | some w =>
    simp only [hw, Option.isSome_some, if_true] at hissued
    have hlen : (s.after now o).versions.lastIssued = (writes ++ [w]).length := by
      rw [hissued, h.issued, List.length_append]
      rfl
    simp only [hw, Option.some.injEq] at htold
    rw [Option.toList_some]
    by_cases hu : w = u
    · subst hu
      rw [if_pos rfl, ← hissued, hlen] at htold
      refine ⟨hlen, ?_, ?_⟩
      · rw [htold]
        refine .inr ⟨writes.length, by rw [List.length_append]; rfl, ?_⟩
        rw [List.getElem?_append_right (Nat.le_refl _), Nat.sub_self]
        rfl
      · rw [htold, rank, List.take_length]
    · rw [if_neg hu] at htold
      refine ⟨hlen, htold ▸ h.stamp.append _, ?_⟩
      rw [htold, rank_append h.stamp.le, h.latest, List.count_append,
        List.count_singleton, beq_false_of_ne hu]
      rfl

/-! ### A cell beside the cache -/

section Step
variable {u : UserId} {s : Store} {c : Cell} {now : Nat} {o : Operation} {f : Nat → Nat}

theorem fresh?_eq (s : Store) (now : Nat) (slice : Slice) :
    Cell.fresh? s.config now slice = if s.expired now slice then none else some slice.posts := by
  unfold Cell.fresh? expired
  cases s.config.ttl <;> simp

/-- Whoever the version is given to: it is the cell's if and only if it is the user's. -/
def Agrees (u : UserId) (s : Store) (c : Cell) (f : Nat → Nat) (o : Operation) : Prop :=
  ∀ posts v, o = .refill u posts v → (f v = c.version ↔ s.versions.told u = v)

theorem Agrees.refill {posts : List Post} {v : Nat} (h : Agrees u s c f (.refill u posts v)) :
    f v = c.version ↔ s.versions.told u = v := h posts v rfl

theorem user_of_concerns (ho : o.concerns u) {w : UserId} (hw : o.user? = some w) : w = u := by
  simpa [Operation.concerns, hw] using ho

/-- A push makes of a slice what it makes of a cell's. -/
theorem bind_grow? (s : Store) (now : Nat) (u : UserId) (p : Post) (maxLength : Nat) :
    (s.slices.find? u).bind (Cell.grow? s.config now p maxLength) =
      (s.push now u p maxLength).slices.find? u := by
  have hbound : max 1 (min maxLength s.config.maxEntries) =
      max 1 (min maxLength s.config.entries) := by
    unfold Config.entries
    omega
  rw [find?_push_self]
  congr 1
  funext old
  rw [Cell.grow?, fresh?_eq, Post.grow, hbound]
  split
  · rfl
  · rw [Option.map_some]
    split <;> rfl

theorem slice_after (h : c.slice = s.slices.find? u) (ho : o.concerns u) (hv : Agrees u s c f o) :
    (c.after s.config now (o.renumber f)).slice = (s.after now o).slices.find? u := by
  cases o with
  | get w =>
    cases user_of_concerns ho (w := w) rfl
    show c.slice.filter _ = (s.get now u).2.slices.find? u
    rw [h]
    unfold get
    cases hs : s.slices.find? u with
    | none => exact hs.symm
    | some slice =>
      simp only [Option.filter, fresh?_eq]
      by_cases he : s.expired now slice
      · simp only [he, if_true]
        exact (Recency.find?_erase_self ..).symm
      · simp only [he]
        exact hs ▸ (Recency.find?_use ..).symm
  | set w posts =>
    cases user_of_concerns ho (w := w) rfl
    exact (Recency.find?_put_self s.slices ..).symm
  | push w p maxLength =>
    cases user_of_concerns ho (w := w) rfl
    show c.slice.bind _ = _
    rw [h]
    exact bind_grow? ..
  | invalidate w =>
    cases user_of_concerns ho (w := w) rfl
    exact (Recency.find?_erase_self s.slices u).symm
  | version w => exact h
  | refill w posts v =>
    cases user_of_concerns ho (w := w) rfl
    show (if f v = c.version then _ else c).slice = (s.refill now u posts v).2.slices.find? u
    by_cases ht : s.versions.told u = v
    · rw [if_pos (hv.refill.mpr ht), refill_of_told_eq s now u posts ht]
      exact (Recency.find?_put_self s.slices ..).symm
    · rw [if_neg (mt hv.refill.mp ht), refill_of_told_ne s now u posts ht]
      exact h
  | clear => rfl

theorem version_after (ho : o.concerns u) :
    (c.after s.config now (o.renumber f)).version = c.version + o.written?.toList.count u := by
  cases o with
  | push w p maxLength =>
    cases user_of_concerns ho (w := w) rfl
    exact congrArg (c.version + ·) (List.count_singleton_self ..).symm
  | invalidate w =>
    cases user_of_concerns ho (w := w) rfl
    exact congrArg (c.version + ·) (List.count_singleton_self ..).symm
  | refill w posts v =>
    show (if f v = c.version then _ else c).version = c.version
    split <;> rfl
  | _ => rfl

theorem answer_eq (now : Nat) (h : c.slice = s.slices.find? u) (hsorted : s.Sorted)
    (ho : o.concerns u) (hversion : f (s.versions.told u) = c.version) (hv : Agrees u s c f o) :
    c.answer s.config now (o.renumber f) = (s.answer now o).renumber f := by
  cases o with
  | get w =>
    cases user_of_concerns ho (w := w) rfl
    show Answer.posts (c.slice.bind _) = .posts (s.get now u).1
    rw [h, get_of_sorted hsorted]
    congr 2
    exact funext (fresh?_eq s now)
  | version w =>
    cases user_of_concerns ho (w := w) rfl
    show Answer.version c.version = .version (f (s.version u).1)
    rw [version_fst, hversion]
  | refill w posts v =>
    cases user_of_concerns ho (w := w) rfl
    show Answer.accepted (f v = c.version) = .accepted (s.refill now u posts v).1
    by_cases ht : s.versions.told u = v
    · rw [refill_of_told_eq s now u posts ht, decide_eq_true (hv.refill.mpr ht)]
    · rw [refill_of_told_ne s now u posts ht, decide_eq_false (mt hv.refill.mp ht)]
  | _ => rfl

end Step

/-- A cell tells of a user what the cache tells, after so many writes. -/
structure Mirrors (users : List UserId) (u : UserId) (writes : List UserId) (s : Store) (c : Cell) :
    Prop where
  roomy : Roomy users s
  numbered : Numbered u writes s
  slice : c.slice = s.slices.find? u
  version : c.version = writes.count u

section Mirrors
variable {users : List UserId} {u : UserId} {writes more : List UserId} {s : Store} {c : Cell}
  {o : Operation}

theorem Mirrors.rank_eq_iff (h : Mirrors users u writes s c) {v : Nat} (hv : Stamp writes u v) :
    rank (writes ++ more) u v = c.version ↔ s.versions.told u = v := by
  rw [rank_append hv.le, h.version, ← h.numbered.latest, Cache.rank_eq_iff hv h.numbered.stamp,
    eq_comm]

theorem Mirrors.after (h : Mirrors users u writes s c) (now : Nat)
    (ho : ∀ w, o.user? = some w → w ∈ users)
    (hu : o.concerns u) (hv : Agrees u s c (rank (writes ++ more) u) o) :
    Mirrors users u (writes ++ o.written?.toList) (s.after now o)
      (c.after s.config now (o.renumber (rank (writes ++ more) u))) where
  roomy := h.roomy.after ho
  numbered := h.numbered.after h.roomy now ho
  slice := slice_after h.slice hu hv
  version := by rw [version_after hu, h.version, List.count_append]

/-- What is done for another user leaves the cell as it is. -/
theorem Mirrors.aside (h : Mirrors users u writes s c) (now : Nat)
    (ho : ∀ w, o.user? = some w → w ∈ users) (hu : o.concerns u = false) :
    Mirrors users u (writes ++ o.written?.toList) (s.after now o) c := by
  obtain ⟨w, hw, hne⟩ : ∃ w, o.user? = some w ∧ w ≠ u := by
    simpa [Operation.concerns, Option.all_eq_false] using hu
  have hcount : o.written?.toList.count u = 0 := by
    cases o with
    | push x p maxLength =>
      cases hw
      exact List.count_eq_zero.mpr fun hm => hne (List.mem_singleton.mp hm).symm
    | invalidate x =>
      cases hw
      exact List.count_eq_zero.mpr fun hm => hne (List.mem_singleton.mp hm).symm
    | _ => rfl
  refine ⟨h.roomy.after ho, h.numbered.after h.roomy now ho, ?_, ?_⟩
  · rw [h.slice, h.roomy.find?_after hw (ho w hw) (Ne.symm hne)]
  · rw [h.version, List.count_append, hcount, Nat.add_zero]

theorem Numbered.stamp_of_answer (h : Numbered u writes s) {now : Nat} (hu : o.concerns u) {v : Nat}
    (hv : s.answer now o = .version v) : Stamp writes u v := by
  cases o with
  | version w =>
    cases user_of_concerns hu (w := w) rfl
    cases hv
    rw [version_fst]
    exact h.stamp
  | _ => cases hv

end Mirrors

/-- A user's refills are made with versions that the user was told, now or earlier. -/
def Informed (earlier : List Answer) (s : Store) (u : UserId) (os : List (Nat × Operation)) :
    Prop :=
  ∀ i now posts v, os[i]? = some (now, .refill u posts v) →
    .version v ∈ earlier ++ s.answers u (os.take i)

section Informed
variable {earlier : List Answer} {s : Store} {u : UserId} {o : Nat × Operation}
  {os : List (Nat × Operation)}

theorem Informed.head {now : Nat} {posts : List Post} {v : Nat}
    (h : Informed earlier s u ((now, .refill u posts v) :: os)) : .version v ∈ earlier := by
  simpa [answers] using h 0 now posts v rfl

theorem Informed.tail (h : Informed earlier s u (o :: os)) :
    Informed (earlier ++ if o.2.concerns u then [s.answer o.1 o.2] else []) (s.after o.1 o.2) u
      os := by
  intro i now posts v hi
  simpa [answers] using h (i + 1) now posts v hi

end Informed

/-- Step by step the cell answers as the cache does, and the user is told places of own writes
only. -/
theorem answers_of_mirrors {users : List UserId} {u : UserId} {writes : List UserId} {s : Store}
    {c : Cell} (h : Mirrors users u writes s c) (os : List (Nat × Operation))
    (hos : ∀ o ∈ os, ∀ w, o.2.user? = some w → w ∈ users) {earlier : List Answer}
    (hearlier : ∀ v, .version v ∈ earlier → Stamp writes u v) (htold : Informed earlier s u os) :
    (s.answers u os).map (Answer.renumber (rank (writes ++ written os) u)) =
        c.answers s.config (own u (rank (writes ++ written os) u) os) ∧
      ∀ v, .version v ∈ earlier ++ s.answers u os → Stamp (writes ++ written os) u v := by
  induction os generalizing writes s c earlier with
  | nil =>
    refine ⟨rfl, fun v hv => ?_⟩
    rw [show written [] = [] from rfl, List.append_nil]
    exact hearlier v (by simpa [answers] using hv)
  | cons o rest ih =>
    obtain ⟨now, o⟩ := o
    have ho := hos _ (List.mem_cons_self ..)
    have hrest : ∀ o ∈ rest, ∀ w, o.2.user? = some w → w ∈ users := fun o h =>
      hos o (List.mem_cons_of_mem _ h)
    have htail := htold.tail
    rw [written_cons, ← List.append_assoc]
    by_cases hu : o.concerns u
    · simp only [hu, if_true] at htail
      have hv : Agrees u s c (rank (writes ++ o.written?.toList ++ written rest) u) o := by
        rintro posts v rfl
        rw [List.append_assoc]
        exact h.rank_eq_iff (hearlier v htold.head)
      have hfirst := answer_eq now h.slice h.roomy.wellformed.sorted hu
        (by rw [List.append_assoc]; exact (h.rank_eq_iff h.numbered.stamp).mpr rfl) hv
      rw [List.append_assoc] at hv
      have hnext := h.after now ho hu hv
      rw [← List.append_assoc] at hnext
      have hearlier' : ∀ v, .version v ∈ earlier ++ [s.answer now o] →
          Stamp (writes ++ o.written?.toList) u v := by
        intro v hv
        rcases List.mem_append.mp hv with hv | hv
        · exact (hearlier v hv).append _
        · exact (h.numbered.stamp_of_answer hu (List.mem_singleton.mp hv).symm).append _
      obtain ⟨hanswers, hstamps⟩ := ih hnext hrest hearlier' htail
      rw [config_after] at hanswers
      simp only [answers, own_cons, hu, if_true, List.singleton_append, List.map_cons,
        Cell.answers, hfirst, hanswers, true_and]
      simpa only [List.append_assoc, List.singleton_append] using hstamps
    · have hu : o.concerns u = false := by simpa using hu
      simp only [hu, Bool.false_eq_true, if_false, List.append_nil] at htail
      obtain ⟨hanswers, hstamps⟩ := ih (h.aside now ho hu) hrest
        (fun v hv => (hearlier v hv).append _) htail
      rw [config_after] at hanswers
      simp only [answers, own_cons, hu, Bool.false_eq_true, if_false, List.nil_append, hanswers,
        true_and]
      exact hstamps

/-- **Users are isolated in the cache.** As long as the cache has room for all users that occur, and
the user's refills are made with versions that the user was told before, the operations on a user
are answered as by a cell that is told of no other user. The versions that the user is told are
those of the cell, under other numbers in the same order. -/
theorem answers_isolated (config : Config) (os : List (Nat × Operation)) (u : UserId)
    (hroom : (os.filterMap (·.2.user?)).dedup.length ≤ max 1 config.maxUsers)
    (htold : ∀ i now posts v, os[i]? = some (now, .refill u posts v) →
      .version v ∈ (create config).answers u (os.take i)) :
    ((create config).answers u os).map (Answer.renumber (rank (written os) u)) =
        Cell.empty.answers config (own u (rank (written os) u) os) ∧
      ∀ v w, .version v ∈ (create config).answers u os → .version w ∈ (create config).answers u os →
        (rank (written os) u v < rank (written os) u w ↔ v < w) := by
  have hstart : Mirrors (os.filterMap (·.2.user?)) u [] (create config) Cell.empty :=
    ⟨⟨hroom, wellformed_create config, nofun, nofun⟩, numbered_create config u, rfl, rfl⟩
  have hos : ∀ o ∈ os, ∀ w, o.2.user? = some w → w ∈ os.filterMap (·.2.user?) :=
    fun o ho w hw => List.mem_filterMap.mpr ⟨o, ho, hw⟩
  have hearlier : ∀ v, .version v ∈ ([] : List Answer) → Stamp [] u v := nofun
  obtain ⟨hanswers, hstamps⟩ := answers_of_mirrors hstart os hos hearlier htold
  exact ⟨hanswers, fun v w hv hw => rank_lt_iff (hstamps w hw)⟩

/-- Bob's write is the second of the cache and the first of the cell; carol's, before and after it,
change nothing for bob, and his slice is too old in the end. -/
theorem answers_isolated_of_two :
    let bob : UserId := ⟨"bob"⟩
    let carol : UserId := ⟨"carol"⟩
    let p : Post := default
    let config : Config := ⟨2, 1, some 10⟩
    let os : List (Nat × Operation) :=
      [(0, .invalidate carol), (0, .invalidate bob), (1, .version bob), (2, .refill bob [p] 2),
        (3, .push carol p 5), (11, .get bob), (12, .get bob)]
    (create config).answers bob os =
        [.done, .version 2, .accepted true, .posts (some [p]), .posts none] ∧
      Cell.empty.answers config (own bob (rank (written os) bob) os) =
        [.done, .version 1, .accepted true, .posts (some [p]), .posts none] := by
  intro bob carol p config os
  have hanswers : (create config).answers bob os =
      [.done, .version 2, .accepted true, .posts (some [p]), .posts none] := by decide +kernel
  have htold : ∀ i now posts v, os[i]? = some (now, .refill bob posts v) →
      .version v ∈ (create config).answers bob (os.take i) := by
    intro i now posts v hi
    rcases i with _ | _ | _ | _ | _ | _ | _ | i <;> cases hi
    decide
  have h := answers_isolated config os bob (by decide) htold
  exact ⟨hanswers, h.1.symm.trans (by rw [hanswers]; rfl)⟩

end Store
end Timelines.Cache
