import Timelines.Cache.Versions
import Timelines.Proofs.Cache.Recency

/-! Versions never go back.

A user's version is read from three places: an entry of the map, or the floor where there is none,
and the last number issued bounds both. `told` is the number that the user would be told. Whatever
is asked for or advanced, and whoever is forgotten on the way, no user's number falls
(`told_le_ask`, `told_le_advance`), and that of the user who is given a new version rises
(`told_lt_advance`). -/
namespace Timelines.Cache.Versions

/-- The version a user has, remembered or not. -/
def told (vs : Versions) (u : UserId) : Nat := (vs.current.find? u).getD vs.floor

/-- No version is beyond the last one issued. -/
structure Issued (vs : Versions) : Prop where
  floor_le : vs.floor ≤ vs.lastIssued
  entry_le : ∀ e ∈ vs.current.entries, e.2 ≤ vs.lastIssued

theorem issued_start : start.Issued := ⟨Nat.le_refl 0, fun _ h => nomatch h⟩

theorem Issued.told_le {vs : Versions} (h : vs.Issued) (u : UserId) :
    vs.told u ≤ vs.lastIssued := by
  unfold told
  cases hu : vs.current.find? u with
  | none => exact h.floor_le
  | some v => exact h.entry_le _ (Recency.mem_of_find? hu)

/-! ### Remembering a version -/

section Track
variable (vs : Versions) (capacity : Nat)

theorem told_track_self (u : UserId) (v : Nat) : (vs.track capacity u v).told u = v := by
  simp only [told, track, Recency.find?_put_self, Option.getD_some]

theorem floor_le_track (u : UserId) (v : Nat) : vs.floor ≤ (vs.track capacity u v).floor := by
  simp only [track]
  split
  · exact Nat.le_max_left ..
  · exact Nat.le_refl _

/-- Remembering one user's version lets no other's fall: whoever is forgotten for it lifts the floor
to the version that was his. -/
theorem told_le_track {u w : UserId} (h : w ≠ u) (v : Nat) :
    vs.told w ≤ (vs.track capacity u v).told w := by
  rcases Recency.find?_put_of_ne vs.current capacity v h with he | ⟨hn, d, hd, hw⟩
  · have hf := floor_le_track vs capacity u v
    simp only [told, track, he] at hf ⊢
    cases vs.current.find? w with
    | some _ => exact Nat.le_refl _
    | none => exact hf
  · simp only [told, track, hn, hd, hw, Option.getD_some, Option.getD_none]
    exact Nat.le_max_right ..

/-- As long as nobody is forgotten, remembering one user's version leaves the others'. -/
theorem told_track_of_ne {u w : UserId} (h : w ≠ u) (v : Nat)
    (hv : vs.current.victim? capacity u = none) : (vs.track capacity u v).told w = vs.told w := by
  have hfloor : (vs.track capacity u v).floor = vs.floor := by simp only [track, hv]
  rcases Recency.find?_put_of_ne vs.current capacity v h with he | ⟨-, d, hd, -⟩
  · rw [told, told, hfloor]
    exact congrArg (·.getD vs.floor) he
  · rw [hv] at hd
    cases hd

variable {vs} in
theorem Issued.track (h : vs.Issued) (u : UserId) {v : Nat} (hv : v ≤ vs.lastIssued) :
    (vs.track capacity u v).Issued := by
  constructor
  · simp only [Versions.track]
    split
    next d hd => exact Nat.max_le.mpr ⟨h.floor_le, h.entry_le _ (Recency.mem_of_victim? hd)⟩
    next => exact h.floor_le
  · intro e he
    rcases Recency.mem_of_mem_put he with rfl | he
    · exact hv
    · exact h.entry_le e he

end Track

/-! ### Asking -/

section Ask
variable (vs : Versions) (capacity : Nat)

theorem ask_fst (u : UserId) : (vs.ask capacity u).1 = vs.told u := by
  unfold ask told
  split
  next v hv => rw [hv, Option.getD_some]
  next hn => rw [hn, Option.getD_none]

theorem lastIssued_ask (u : UserId) : (vs.ask capacity u).2.lastIssued = vs.lastIssued := by
  unfold ask
  split <;> rfl

theorem told_le_ask (u w : UserId) : vs.told w ≤ (vs.ask capacity u).2.told w := by
  unfold ask
  split
  · simp only [told, Recency.find?_use, Nat.le_refl]
  next hn =>
    by_cases h : w = u
    · subst h
      rw [told_track_self, told, hn]
      exact Nat.le_refl _
    · exact told_le_track vs capacity h vs.floor

/-- To ask for a version changes none as long as nobody is forgotten. -/
theorem told_ask_of_room {u : UserId} (h : vs.current.victim? capacity u = none) (w : UserId) :
    (vs.ask capacity u).2.told w = vs.told w := by
  unfold ask
  split
  · simp only [told, Recency.find?_use]
  next hn =>
    by_cases hw : w = u
    · subst hw
      rw [told_track_self, told, hn, Option.getD_none]
    · exact told_track_of_ne vs capacity hw _ h

variable {vs} in
theorem Issued.ask (h : vs.Issued) (u : UserId) : (vs.ask capacity u).2.Issued := by
  unfold Versions.ask
  split
  · exact ⟨h.floor_le, fun e he => h.entry_le e (Recency.mem_of_mem_use he)⟩
  · exact h.track capacity u h.floor_le

end Ask

/-! ### Advancing -/

section Advance
variable {vs : Versions} (capacity : Nat)

theorem lastIssued_advance (u : UserId) :
    (vs.advance capacity u).lastIssued = vs.lastIssued + 1 := rfl

theorem Issued.advance (h : vs.Issued) (u : UserId) : (vs.advance capacity u).Issued := by
  have hnext : ({ vs with lastIssued := vs.lastIssued + 1 } : Versions).Issued :=
    ⟨Nat.le_succ_of_le h.floor_le, fun e he => Nat.le_succ_of_le (h.entry_le e he)⟩
  exact hnext.track capacity u (Nat.le_refl _)

theorem told_lt_advance (h : vs.Issued) (u : UserId) :
    vs.told u < (vs.advance capacity u).told u := by
  rw [advance, told_track_self]
  exact Nat.lt_succ_of_le (h.told_le u)

theorem told_le_advance (h : vs.Issued) (u w : UserId) :
    vs.told w ≤ (vs.advance capacity u).told w := by
  by_cases hw : w = u
  · rw [hw]
    exact Nat.le_of_lt (told_lt_advance capacity h u)
  · exact told_le_track { vs with lastIssued := vs.lastIssued + 1 } capacity hw _

/-- A new version for one user leaves another's, or lifts it where users have to be forgotten. -/
theorem told_advance_of_ne {u w : UserId} (hw : w ≠ u) :
    (vs.advance capacity u).told w = vs.told w ∨
      capacity ≤ vs.current.size ∧ vs.told w < (vs.advance capacity u).told w := by
  let next : Versions := { vs with lastIssued := vs.lastIssued + 1 }
  by_cases hv : vs.current.victim? capacity u = none
  · exact .inl (told_track_of_ne next capacity hw _ hv)
  · rcases Nat.eq_or_lt_of_le (told_le_track next capacity hw (vs.lastIssued + 1)) with he | hlt
    · exact .inl he.symm
    · exact .inr ⟨Recency.le_size_of_victim? hv, hlt⟩

end Advance
end Timelines.Cache.Versions
