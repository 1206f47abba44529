import Mathlib.Data.List.Dedup
import Mathlib.Data.List.Perm.Subperm
import Timelines.Cache.Recency

/-! What a `put` does to the other keys of a map.

`find?_put_of_ne`: another key keeps its value, or was the victim and is found no more. Each key has
one entry (`nodup_keys_put`), so that nothing is dropped as long as all keys together fit
(`victim?_eq_none`). -/
namespace Timelines.Recency
variable {κ ν : Type} [DecidableEq κ]

/-- Without its last entry a map finds what it found before, unless that entry was the only one of
its key. -/
theorem find?_dropLast (es : List (κ × ν)) (j : κ) :
    find? ⟨es.dropLast⟩ j = find? ⟨es⟩ j ∨
      find? ⟨es.dropLast⟩ j = none ∧ ∃ d, es.getLast? = some (j, d) ∧ find? ⟨es⟩ j = some d := by
  induction es with
  | nil => exact .inl rfl
  | cons e es ih =>
    obtain ⟨k, v⟩ := e
    cases es with
    | nil =>
      by_cases h : j = k
      · subst h
        exact .inr ⟨rfl, v, rfl, by rw [find?_cons, if_pos rfl]⟩
      · left
        rw [find?_cons, if_neg h]
        rfl
    | cons e' es' =>
      rw [List.dropLast_cons_cons, find?_cons, find?_cons, List.getLast?_cons_cons]
      by_cases h : j = k
      · left
        rw [if_pos h, if_pos h]
      · rw [if_neg h, if_neg h]
        exact ih

/-- A `put` leaves another key as it was, or drops it. -/
theorem find?_put_of_ne (m : Recency κ ν) (capacity : Nat) (v : ν) {j k : κ} (h : j ≠ k) :
    (m.put capacity k v).find? j = m.find? j ∨
      (m.put capacity k v).find? j = none ∧
        ∃ d, m.victim? capacity k = some (j, d) ∧ m.find? j = some d := by
  cases hk : m.find? k with
  | some w =>
    left
    simp only [put, hk]
    rw [find?_cons, if_neg h]
    exact find?_erase_of_ne m h
  | none =>
    simp only [put, victim?, hk, find?_cons, if_neg h, Option.isNone_none, true_and]
    split
    · exact find?_dropLast m.entries j
    · exact .inl rfl

/-- What a `put` keeps of another key is what was there. -/
theorem find?_of_put_of_ne {m : Recency κ ν} {capacity : Nat} {v w : ν} {j k : κ} (h : j ≠ k)
    (hw : (m.put capacity k v).find? j = some w) : m.find? j = some w := by
  rcases find?_put_of_ne m capacity v h with he | ⟨hn, -⟩
  · rw [← he, hw]
  · rw [hn] at hw
    cases hw

theorem find?_modify (m : Recency κ ν) (k j : κ) (f : ν → ν) :
    (m.modify k f).find? j = if j = k then (m.find? j).map f else m.find? j := by
  obtain ⟨es⟩ := m
  induction es with
  | nil =>
    split <;> rfl
  | cons e es ih =>
    obtain ⟨i, v⟩ := e
    have ih' : find? ⟨es.map fun e => if e.1 = k then (k, f e.2) else e⟩ j =
        if j = k then (find? ⟨es⟩ j).map f else find? ⟨es⟩ j := ih
    simp only [modify, List.map_cons]
    by_cases hi : i = k
    · subst hi
      rw [if_pos rfl, find?_cons, find?_cons, ih']
      by_cases hj : j = i
      · simp [hj]
      · simp [hj]
    · rw [if_neg hi, find?_cons, find?_cons, ih']
      by_cases hj : j = i
      · simp [hj, hi]
      · simp [hj]

/-! ### Entries -/

theorem mem_of_find? {m : Recency κ ν} {k : κ} {v : ν} (h : m.find? k = some v) :
    (k, v) ∈ m.entries := by
  obtain ⟨es⟩ := m
  induction es with
  | nil => cases h
  | cons e es ih =>
    obtain ⟨j, w⟩ := e
    rw [find?_cons] at h
    split at h
    next hk =>
      rw [hk, Option.some.inj h]
      exact List.mem_cons_self ..
    next => exact List.mem_cons_of_mem _ (ih h)

theorem mem_of_victim? {m : Recency κ ν} {capacity : Nat} {k : κ} {e : κ × ν}
    (h : m.victim? capacity k = some e) : e ∈ m.entries := by
  unfold victim? at h
  split at h
  · exact List.mem_of_getLast? h
  · cases h

/-- A `put` drops an entry only from a map that is full. -/
theorem le_size_of_victim? {m : Recency κ ν} {capacity : Nat} {k : κ}
    (h : m.victim? capacity k ≠ none) : capacity ≤ m.size := by
  unfold victim? at h
  split at h
  next hfull => exact hfull.2
  next => exact absurd rfl h

theorem mem_of_mem_erase {m : Recency κ ν} {k : κ} {e : κ × ν} (h : e ∈ (m.erase k).entries) :
    e ∈ m.entries :=
  (List.mem_filter.mp h).1

theorem mem_of_mem_put {m : Recency κ ν} {capacity : Nat} {k : κ} {v : ν} {e : κ × ν}
    (h : e ∈ (m.put capacity k v).entries) : e = (k, v) ∨ e ∈ m.entries := by
  unfold put at h
  split at h
  · rcases List.mem_cons.mp h with he | he
    · exact .inl he
    · exact .inr (mem_of_mem_erase he)
  · rcases List.mem_cons.mp h with he | he
    · exact .inl he
    · right
      split at he
      · exact (List.dropLast_subset _) he
      · exact he

theorem mem_of_mem_use {m : Recency κ ν} {k : κ} {e : κ × ν} (h : e ∈ (m.use k).entries) :
    e ∈ m.entries := by
  unfold use at h
  split at h
  next v hv =>
    rcases List.mem_cons.mp h with he | he
    · rw [he]
      exact mem_of_find? hv
    · exact mem_of_mem_erase he
  next => exact h

/-! ### Keys -/

def keys (m : Recency κ ν) : List κ := m.entries.map (·.1)

theorem not_mem_keys {m : Recency κ ν} {k : κ} (h : m.find? k = none) : k ∉ m.keys := by
  obtain ⟨es⟩ := m
  induction es with
  | nil => nofun
  | cons e es ih =>
    rw [find?_cons] at h
    split at h
    next => cases h
    next hk => exact fun hm => (List.mem_cons.mp hm).elim hk (ih h)

theorem keys_erase (m : Recency κ ν) (k : κ) : (m.erase k).keys = m.keys.filter (· ≠ k) := by
  simp only [keys, erase, List.filter_map, Function.comp_def]

theorem keys_modify (m : Recency κ ν) (k : κ) (f : ν → ν) : (m.modify k f).keys = m.keys := by
  simp only [keys, modify, List.map_map]
  refine List.map_congr_left fun e _ => ?_
  by_cases h : e.1 = k <;> simp [h]

theorem size_modify (m : Recency κ ν) (k : κ) (f : ν → ν) : (m.modify k f).size = m.size :=
  List.length_map _

theorem size_use_le (m : Recency κ ν) (k : κ) : (m.use k).size ≤ m.size := by
  unfold use
  split
  next v hv => exact size_erase_lt m hv
  next => exact Nat.le_refl _

theorem mem_keys_of_mem_put {m : Recency κ ν} {capacity : Nat} {j k : κ} {v : ν}
    (h : j ∈ (m.put capacity k v).keys) : j = k ∨ j ∈ m.keys := by
  obtain ⟨e, he, rfl⟩ := List.mem_map.mp h
  rcases mem_of_mem_put he with rfl | he
  · exact .inl rfl
  · exact .inr (List.mem_map_of_mem he)

theorem mem_keys_of_mem_use {m : Recency κ ν} {j k : κ} (h : j ∈ (m.use k).keys) : j ∈ m.keys := by
  obtain ⟨e, he, rfl⟩ := List.mem_map.mp h
  exact List.mem_map_of_mem (mem_of_mem_use he)

section Nodup
variable {m : Recency κ ν} (h : m.keys.Nodup)
include h

theorem nodup_keys_erase (k : κ) : (m.erase k).keys.Nodup := keys_erase m k ▸ h.filter _

/-- An entry brought to the front is the only one of its key. -/
theorem nodup_keys_front (k : κ) (v : ν) : (keys ⟨(k, v) :: (m.erase k).entries⟩).Nodup :=
  List.nodup_cons.mpr ⟨not_mem_keys (find?_erase_self m k), nodup_keys_erase h k⟩

theorem nodup_keys_use (k : κ) : (m.use k).keys.Nodup := by
  unfold use
  split
  · exact nodup_keys_front h ..
  · exact h

theorem nodup_keys_put (capacity : Nat) (k : κ) (v : ν) : (m.put capacity k v).keys.Nodup := by
  unfold put
  split
  next => exact nodup_keys_front h ..
  next hn =>
    have hk := not_mem_keys hn
    split
    · have hsub : (m.entries.dropLast.map (·.1)).Sublist m.keys :=
        (List.dropLast_sublist _).map _
      exact List.nodup_cons.mpr ⟨fun hm => hk (hsub.subset hm), h.sublist hsub⟩
    · exact List.nodup_cons.mpr ⟨hk, h⟩

/-- Nothing has to be dropped for a key as long as it and all others are among few enough. -/
theorem victim?_eq_none {all : List κ} {capacity : Nat} {k : κ} (hall : ∀ j ∈ m.keys, j ∈ all)
    (hk : k ∈ all) (hroom : all.dedup.length ≤ capacity) : m.victim? capacity k = none := by
  unfold victim?
  split
  next hv =>
    have hnew : (k :: m.keys).Nodup :=
      List.nodup_cons.mpr ⟨not_mem_keys (Option.isNone_iff_eq_none.mp hv.1), h⟩
    have hsub : (k :: m.keys).Subperm all.dedup :=
      List.subperm_of_subset hnew fun j hj =>
        List.mem_dedup.mpr ((List.mem_cons.mp hj).elim (fun he => he ▸ hk) (hall j))
    have hlen := hsub.length_le
    rw [List.length_cons, keys, List.length_map] at hlen
    have hfull : capacity ≤ m.entries.length := hv.2
    omega
  next => rfl

end Nodup

end Timelines.Recency
