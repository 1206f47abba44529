import Timelines.Cache.Store
import Timelines.Proofs.Cache.Versions

/-! Stale refills are refused.

A run is any list of operations on a cache, each at its time, on any users in any order.
`stale_refill_refused`: a version that was told before a write of the user is worthless ever after.
No refill with it is accepted, none touches a slice, and whatever version the user is told from then
on is a later one, however often others pushed the user out of the versions that are remembered.

Versions are numbered by the writes (`lastIssued_run`), so none is above the number of writes. -/
namespace Timelines.Cache

inductive Operation
  | get (user : UserId)
  | set (user : UserId) (posts : List Post)
  | push (user : UserId) (post : Post) (maxLength : Nat)
  | invalidate (user : UserId)
  | version (user : UserId)
  | refill (user : UserId) (posts : List Post) (version : Nat)
  | clear
  deriving DecidableEq, Inhabited

/-- The user whose timeline an operation was told to have been written. -/
def Operation.written? : Operation → Option UserId
  | .push u _ _ | .invalidate u => some u
  | _ => none

namespace Store

/-- The cache after an operation. -/
def after (s : Store) (now : Nat) : Operation → Store
  | .get u => (s.get now u).2
  | .set u posts => s.store now u posts
  | .push u p maxLength => s.push now u p maxLength
  | .invalidate u => s.invalidate u
  | .version u => (s.version u).2
  | .refill u posts version => (s.refill now u posts version).2
  | .clear => s.clear

/-- The cache after operations, each with its time. -/
def run (s : Store) : List (Nat × Operation) → Store
  | [] => s
  | (now, o) :: rest => (s.after now o).run rest

/-! ### What an operation does to the versions -/

theorem versions_get (s : Store) (now : Nat) (u : UserId) :
    (s.get now u).2.versions = s.versions := by
  unfold get
  split
  · rfl
  · split <;> rfl

theorem versions_push (s : Store) (now : Nat) (u : UserId) (p : Post) (maxLength : Nat) :
    (s.push now u p maxLength).versions = s.versions.advance s.config.users u := by
  unfold push
  dsimp only
  split
  · rfl
  · split
    · rfl
    · split <;> rfl

theorem version_fst (s : Store) (u : UserId) : (s.version u).1 = s.versions.told u :=
  Versions.ask_fst ..

theorem versions_version (s : Store) (u : UserId) :
    (s.version u).2.versions = (s.versions.ask s.config.users u).2 := rfl

theorem versions_refill (s : Store) (now : Nat) (u : UserId) (posts : List Post) (version : Nat) :
    (s.refill now u posts version).2.versions = (s.versions.ask s.config.users u).2 := by
  unfold refill
  split
  next v s' hs =>
    have hs' : s' = (s.version u).2 := by rw [hs]
    rw [← versions_version, ← hs']
    split <;> rfl

/-- A refill with a version that the user does not have any more changes no slice. -/
theorem refill_of_told_ne (s : Store) (now : Nat) (u : UserId) (posts : List Post) {version : Nat}
    (h : s.versions.told u ≠ version) :
    s.refill now u posts version = (false, (s.version u).2) := by
  have hv := version_fst s u
  unfold refill
  split
  next v s' hs =>
    rw [hs] at hv ⊢
    rw [if_neg (by rw [show v = s.versions.told u from hv]; exact h)]

/-- An operation asks for a user's version, advances it, or lets all versions be. -/
theorem versions_after (s : Store) (now : Nat) (o : Operation) :
    (s.after now o).versions =
      match o with
      | .push u _ _ | .invalidate u => s.versions.advance s.config.users u
      | .version u | .refill u _ _ => (s.versions.ask s.config.users u).2
      | _ => s.versions := by
  cases o with
  | get u => exact versions_get s now u
  | set u posts => rfl
  | push u p maxLength => exact versions_push s now u p maxLength
  | invalidate u => rfl
  | version u => rfl
  | refill u posts version => exact versions_refill s now u posts version
  | clear => rfl

theorem issued_after {s : Store} (h : s.versions.Issued) (now : Nat) (o : Operation) :
    (s.after now o).versions.Issued := by
  rw [versions_after]
  split
  · exact h.advance ..
  · exact h.advance ..
  · exact h.ask ..
  · exact h.ask ..
  · exact h

theorem told_le_after {s : Store} (h : s.versions.Issued) (now : Nat) (o : Operation) (u : UserId) :
    s.versions.told u ≤ (s.after now o).versions.told u := by
  rw [versions_after]
  split
  · exact Versions.told_le_advance _ h ..
  · exact Versions.told_le_advance _ h ..
  · exact Versions.told_le_ask ..
  · exact Versions.told_le_ask ..
  · exact Nat.le_refl _

theorem told_lt_after {s : Store} (h : s.versions.Issued) (now : Nat) {o : Operation} {u : UserId}
    (ho : o.written? = some u) : s.versions.told u < (s.after now o).versions.told u := by
  rw [versions_after]
  cases o with
  | push w p maxLength =>
    cases ho
    exact Versions.told_lt_advance _ h _
  | invalidate w =>
    cases ho
    exact Versions.told_lt_advance _ h _
  | _ => cases ho

theorem lastIssued_after (s : Store) (now : Nat) (o : Operation) :
    (s.after now o).versions.lastIssued =
      s.versions.lastIssued + if o.written?.isSome then 1 else 0 := by
  rw [versions_after]
  cases o <;> simp [Operation.written?, Versions.lastIssued_advance, Versions.lastIssued_ask]

/-! ### Runs -/

theorem issued_run {s : Store} (h : s.versions.Issued) (os : List (Nat × Operation)) :
    (s.run os).versions.Issued := by
  induction os generalizing s with
  | nil => exact h
  | cons o rest ih => exact ih (issued_after h o.1 o.2)

theorem told_le_run {s : Store} (h : s.versions.Issued) (os : List (Nat × Operation)) (u : UserId) :
    s.versions.told u ≤ (s.run os).versions.told u := by
  induction os generalizing s with
  | nil => exact Nat.le_refl _
  | cons o rest ih =>
    exact Nat.le_trans (told_le_after h o.1 o.2 u) (ih (issued_after h o.1 o.2))

/-- A run with a write of the user in it raises the user's version. -/
theorem told_lt_run {s : Store} (h : s.versions.Issued) {os : List (Nat × Operation)} {u : UserId}
    (hw : ∃ o ∈ os, o.2.written? = some u) : s.versions.told u < (s.run os).versions.told u := by
  induction os generalizing s with
  | nil =>
    obtain ⟨o, ho, -⟩ := hw
    cases ho
  | cons o rest ih =>
    have hi := issued_after h o.1 o.2
    obtain ⟨o', ho', hu⟩ := hw
    rcases List.mem_cons.mp ho' with rfl | hr
    · exact Nat.lt_of_lt_of_le (told_lt_after h o'.1 hu) (told_le_run hi rest u)
    · exact Nat.lt_of_le_of_lt (told_le_after h o.1 o.2 u) (ih hi ⟨o', hr, hu⟩)

/-- The last version issued is the number of writes. -/
theorem lastIssued_run (s : Store) (os : List (Nat × Operation)) :
    (s.run os).versions.lastIssued =
      s.versions.lastIssued + os.countP fun o => o.2.written?.isSome := by
  induction os generalizing s with
  | nil => rfl
  | cons o rest ih =>
    have hrun : s.run (o :: rest) = (s.after o.1 o.2).run rest := rfl
    rw [hrun, ih, lastIssued_after, List.countP_cons]
    omega

theorem issued_create (config : Config) : (create config).versions.Issued := Versions.issued_start

/-- **A version told before a write of its user is refused ever after.** Whatever came before, and
whatever came between the asking and the refill as long as the user's timeline was written in it:
the refill is refused, it leaves all slices as they are, and the version that the user is told by
then is above the one told before. -/
theorem stale_refill_refused (config : Config) (before later : List (Nat × Operation)) (u : UserId)
    (posts : List Post) (now : Nat) (hw : ∃ o ∈ later, o.2.written? = some u) :
    let asked := ((create config).run before).version u
    let s := asked.2.run later
    (s.refill now u posts asked.1).1 = false ∧
      (s.refill now u posts asked.1).2.slices = s.slices ∧ asked.1 < (s.version u).1 := by
  intro asked s
  have hi : ((create config).run before).versions.Issued := issued_run (issued_create config) before
  have hasked : asked.2.versions.Issued := hi.ask ..
  have htold : asked.1 ≤ asked.2.versions.told u := by
    rw [show asked.1 = ((create config).run before).versions.told u from version_fst ..]
    exact Versions.told_le_ask ..
  have hlt : asked.1 < s.versions.told u := Nat.lt_of_le_of_lt htold (told_lt_run hasked hw)
  rw [refill_of_told_ne s now u posts (Nat.ne_of_gt hlt), version_fst s]
  exact ⟨rfl, rfl, hlt⟩

/-- In a cache for one user, bob's version is asked for and bob's timeline written; then carol's
pushes bob out of the versions remembered. -/
theorem stale_refill_refused_after_forgetting :
    let bob : UserId := ⟨"bob"⟩
    let carol : UserId := ⟨"carol"⟩
    let asked := (create ⟨1, 10, none⟩).version bob
    let s := asked.2.run [(0, .invalidate bob), (0, .invalidate carol)]
    (s.refill 0 bob [] asked.1).1 = false ∧ (s.refill 0 bob [] asked.1).2.slices = s.slices ∧
      asked.1 < (s.version bob).1 :=
  stale_refill_refused ⟨1, 10, none⟩ [] [(0, .invalidate ⟨"bob"⟩), (0, .invalidate ⟨"carol"⟩)]
    ⟨"bob"⟩ [] 0 ⟨(0, .invalidate ⟨"bob"⟩), List.mem_cons_self .., rfl⟩

end Store
end Timelines.Cache
