import Timelines.Proofs.Cache.Recency

/-! Which key of a map has been unused longest.

A map keeps its entries in the order in which their keys were last used. `Ranked` says so against
the list of all uses, the latest first: whatever is in front of a key was used after it. So a `put`
that has to drop an entry drops that of the key that has been unused longest, and only once as many
keys as there is room for were used since, the new one among them (`Ranked.le_since_of_victim?`).

Seen from one key, it keeps its value as long as all that is used besides are fewer keys than there
is room for (`Recent.find?_put`). -/
namespace Timelines.Recency
variable {κ ν : Type} [DecidableEq κ]

/-- The keys used since a key was, where `uses` are all uses, the latest first. -/
def since (uses : List κ) (k : κ) : List κ := uses.takeWhile (· ≠ k)

theorem since_cons_self (uses : List κ) (k : κ) : since (k :: uses) k = [] := by
  simp [since]

theorem since_cons_of_ne (uses : List κ) {j k : κ} (h : j ≠ k) :
    since (j :: uses) k = j :: since uses k := by
  simp [since, h]

/-- A further use brings at most its own key. -/
theorem mem_of_mem_since_cons {uses : List κ} {i j k : κ} (h : i ∈ since (j :: uses) k) :
    i = j ∨ i ∈ since uses k := by
  by_cases hj : j = k
  · rw [hj, since_cons_self] at h
    cases h
  · rw [since_cons_of_ne uses hj] at h
    exact List.mem_cons.mp h

theorem mem_since_cons {uses : List κ} {i j k : κ} (hj : j ≠ k) (h : i = j ∨ i ∈ since uses k) :
    i ∈ since (j :: uses) k := by
  rw [since_cons_of_ne uses hj]
  exact List.mem_cons.mpr h

/-- Of two keys one was used before the other. -/
theorem not_mem_since_of_mem {uses : List κ} {j k : κ} (h : j ∈ since uses k) :
    k ∉ since uses j := by
  induction uses with
  | nil => nofun
  | cons i uses ih =>
    by_cases hik : i = k
    · rw [hik, since_cons_self] at h
      cases h
    · by_cases hij : i = j
      · rw [hij, since_cons_self]
        nofun
      · rw [since_cons_of_ne uses hik] at h
        rw [since_cons_of_ne uses hij]
        have hj := (List.mem_cons.mp h).resolve_left (Ne.symm hij)
        exact fun hk => (List.mem_cons.mp hk).elim (Ne.symm hik) (ih hj)

/-! ### The order of the entries -/

/-- The entries of a map are in the order in which their keys were last used. -/
structure Ranked (uses : List κ) (m : Recency κ ν) : Prop where
  used : ∀ k ∈ m.keys, k ∈ uses
  nodup : m.keys.Nodup
  ordered : m.keys.Pairwise fun j k => j ∈ since uses k

variable {uses : List κ} {m : Recency κ ν}

theorem ranked_empty (uses : List κ) : Ranked uses (empty : Recency κ ν) :=
  ⟨nofun, .nil, .nil⟩

theorem Ranked.sublist {m' : Recency κ ν} (h : Ranked uses m) (hs : m'.keys.Sublist m.keys) :
    Ranked uses m' :=
  ⟨fun k hk => h.used k (hs.subset hk), h.nodup.sublist hs, h.ordered.sublist hs⟩

/-- A key that is used comes to the front. -/
theorem Ranked.front (h : Ranked uses m) {k : κ} (hk : k ∉ m.keys) (v : ν) :
    Ranked (k :: uses) ⟨(k, v) :: m.entries⟩ where
  used := by
    intro j hj
    rcases List.mem_cons.mp hj with rfl | hj
    · exact List.mem_cons_self ..
    · exact List.mem_cons_of_mem _ (h.used j hj)
  nodup := List.nodup_cons.mpr ⟨hk, h.nodup⟩
  ordered := by
    refine List.pairwise_cons.mpr ⟨fun j hj => ?_, ?_⟩
    · exact mem_since_cons (fun he => hk (he ▸ hj)) (.inl rfl)
    · refine h.ordered.imp_of_mem fun {i j} _ hj hij => ?_
      exact mem_since_cons (fun he => hk (he ▸ hj)) (.inr hij)

theorem Ranked.erase (h : Ranked uses m) (k : κ) : Ranked uses (m.erase k) :=
  h.sublist (keys_erase m k ▸ List.filter_sublist)

theorem Ranked.use (h : Ranked uses m) {k : κ} {v : ν} (hf : m.find? k = some v) :
    Ranked (k :: uses) (m.use k) := by
  unfold Recency.use
  rw [hf]
  exact (h.erase k).front (not_mem_keys (find?_erase_self m k)) v

theorem Ranked.put (h : Ranked uses m) (capacity : Nat) (k : κ) (v : ν) :
    Ranked (k :: uses) (m.put capacity k v) := by
  unfold Recency.put
  split
  next => exact (h.erase k).front (not_mem_keys (find?_erase_self m k)) v
  next hn =>
    have hk := not_mem_keys hn
    split
    next =>
      have hs : (keys ⟨m.entries.dropLast⟩).Sublist m.keys := (List.dropLast_sublist _).map _
      exact (h.sublist hs).front (fun hm => hk (hs.subset hm)) v
    next => exact h.front hk v

theorem mem_keys_iff {k : κ} : k ∈ m.keys ↔ (m.find? k).isSome := by
  cases hf : m.find? k with
  | none => simpa using not_mem_keys hf
  | some v => exact ⟨fun _ => rfl, fun _ => List.mem_map_of_mem (mem_of_find? hf)⟩

/-- There is nothing to erase of a key that is not there. -/
theorem erase_of_find? {k : κ} (h : m.find? k = none) : m.erase k = m := by
  have hk := not_mem_keys h
  unfold Recency.erase
  rw [List.filter_eq_self.mpr]
  intro e he
  exact decide_eq_true fun hek => hk (hek ▸ List.mem_map_of_mem he)

/-! ### Other values

The order of a map does not depend on its values. -/

section Map
variable {ω : Type} (f : ν → ω)

/-- The map with other values. -/
def map (m : Recency κ ν) : Recency κ ω := ⟨m.entries.map fun e => (e.1, f e.2)⟩

omit [DecidableEq κ] in
theorem keys_map (m : Recency κ ν) : (m.map f).keys = m.keys := by
  simp [keys, map]

omit [DecidableEq κ] in
theorem size_map (m : Recency κ ν) : (m.map f).size = m.size :=
  List.length_map _

theorem find?_map (m : Recency κ ν) (k : κ) : (m.map f).find? k = (m.find? k).map f := by
  obtain ⟨es⟩ := m
  induction es with
  | nil => rfl
  | cons e es ih =>
    have ih' : find? ⟨es.map fun e => (e.1, f e.2)⟩ k = (find? ⟨es⟩ k).map f := ih
    simp only [map, List.map_cons]
    rw [find?_cons, find?_cons, ih']
    split <;> rfl

theorem map_erase (m : Recency κ ν) (k : κ) : (m.erase k).map f = (m.map f).erase k := by
  simp [map, erase, List.filter_map, Function.comp_def]

theorem map_use (m : Recency κ ν) (k : κ) : (m.use k).map f = (m.map f).use k := by
  unfold use
  rw [find?_map]
  cases m.find? k with
  | none => rfl
  | some v =>
    rw [Option.map_some, ← map_erase]
    rfl

theorem map_put (m : Recency κ ν) (capacity : Nat) (k : κ) (v : ν) :
    (m.put capacity k v).map f = (m.map f).put capacity k (f v) := by
  unfold put
  rw [find?_map, size_map]
  cases m.find? k with
  | none =>
    simp only [Option.map_none, map, List.map_cons]
    split
    · rw [List.map_dropLast]
    · rfl
  | some w =>
    rw [Option.map_some, ← map_erase]
    rfl

/-- A new value that the map with other values does not tell from the old one. -/
theorem map_modify (m : Recency κ ν) (k : κ) {g : ν → ν} (h : ∀ v, f (g v) = f v) :
    (m.modify k g).map f = m.map f := by
  simp only [map, modify, List.map_map]
  congr 1
  refine List.map_congr_left fun e _ => ?_
  by_cases he : e.1 = k <;> simp [he, h]

theorem map_victim? (m : Recency κ ν) (capacity : Nat) (k : κ) :
    (m.map f).victim? capacity k = (m.victim? capacity k).map fun e => (e.1, f e.2) := by
  unfold victim?
  rw [find?_map, size_map, Option.isNone_map]
  split
  · exact List.getLast?_map
  · rfl

end Map

/-! ### The victim -/

theorem not_mem_keys_of_victim? {capacity : Nat} {k : κ} {e : κ × ν}
    (hv : m.victim? capacity k = some e) : k ∉ m.keys := by
  unfold victim? at hv
  split at hv
  next hnew => exact not_mem_keys (Option.isNone_iff_eq_none.mp hnew.1)
  next => cases hv

/-- A `put` drops its victim. -/
theorem not_mem_keys_put_of_victim? (h : m.keys.Nodup) {capacity : Nat} {k j : κ} {d : ν}
    (hv : m.victim? capacity k = some (j, d)) (v : ν) : j ∉ (m.put capacity k v).keys := by
  have hj : j ∈ m.keys := List.mem_map_of_mem (mem_of_victim? hv)
  have hjk : j ≠ k := fun he => not_mem_keys_of_victim? hv (he ▸ hj)
  unfold victim? at hv
  split at hv
  next hfull =>
    obtain ⟨front, hes⟩ := List.getLast?_eq_some_iff.mp hv
    have hkeys : m.keys = front.map (·.1) ++ [j] := by rw [keys, hes, List.map_append]; rfl
    have hfront : j ∉ front.map (·.1) := fun hm =>
      (List.nodup_append.mp (hkeys ▸ h)).2.2 j hm j (List.mem_singleton_self j) rfl
    have hput : m.put capacity k v = ⟨(k, v) :: front⟩ := by
      unfold put
      rw [Option.isNone_iff_eq_none.mp hfull.1]
      simp only [if_pos hfull.2, hes, List.dropLast_concat]
    rw [hput]
    exact fun hm => (List.mem_cons.mp hm).elim hjk hfront
  next => cases hv

theorem exists_victim? {capacity : Nat} {k : κ} (hk : k ∉ m.keys) (hpos : 0 < capacity)
    (hfull : capacity ≤ m.size) : ∃ e, m.victim? capacity k = some e := by
  have hnone : m.find? k = none := by simpa using mt mem_keys_iff.mpr hk
  have hne : m.entries ≠ [] := by
    rintro hnil
    rw [size, hnil] at hfull
    exact absurd hfull (Nat.not_le.mpr hpos)
  exact ⟨_, by rw [victim?, if_pos ⟨by rw [hnone]; rfl, hfull⟩, List.getLast?_eq_some_getLast hne]⟩

/-- The entry that a `put` drops is of the key unused longest: all others were used since. -/
theorem Ranked.mem_since_of_victim? (h : Ranked uses m) {capacity : Nat} {k j : κ} {d : ν}
    (hv : m.victim? capacity k = some (j, d)) :
    j ∈ m.keys ∧ ∀ i ∈ m.keys, i ≠ j → i ∈ since uses j := by
  unfold victim? at hv
  split at hv
  next =>
    obtain ⟨front, hes⟩ := List.getLast?_eq_some_iff.mp hv
    have hkeys : m.keys = front.map (·.1) ++ [j] := by rw [keys, hes, List.map_append]; rfl
    have hall := (List.pairwise_append.mp (hkeys ▸ h.ordered)).2.2
    rw [hkeys]
    refine ⟨List.mem_append_right _ (List.mem_singleton_self j), fun i hi hne => ?_⟩
    rcases List.mem_append.mp hi with hi | hi
    · exact hall i hi j (List.mem_singleton_self j)
    · exact absurd (List.mem_singleton.mp hi) hne
  next => cases hv

/-- By the time a key is dropped, as many others were used since as there is room for. -/
theorem Ranked.le_since_of_victim? (h : Ranked uses m) {capacity : Nat} {k j : κ} {d : ν}
    (hv : m.victim? capacity k = some (j, d)) :
    capacity ≤ (since (k :: uses) j).dedup.length := by
  obtain ⟨hj, hothers⟩ := h.mem_since_of_victim? hv
  have hfull := le_size_of_victim? (by rw [hv]; nofun : m.victim? capacity k ≠ none)
  have hk := not_mem_keys_of_victim? hv
  have hkj : k ≠ j := fun he => hk (he ▸ hj)
  -- The keys of the map but one are as many as fit but one, and the new one is not among them.
  have hnodup : (k :: m.keys.erase j).Nodup :=
    List.nodup_cons.mpr ⟨fun hm => hk (List.mem_of_mem_erase hm), h.nodup.erase j⟩
  have hsub : (k :: m.keys.erase j).Subperm (since (k :: uses) j).dedup := by
    refine List.subperm_of_subset hnodup fun i hi => List.mem_dedup.mpr (mem_since_cons hkj ?_)
    refine (List.mem_cons.mp hi).imp_right fun hi => hothers i (List.mem_of_mem_erase hi) ?_
    rintro rfl
    exact h.nodup.not_mem_erase hi
  have hlen := hsub.length_le
  rw [List.length_cons, List.length_erase_of_mem hj, keys, List.length_map] at hlen
  have hpos : 0 < m.entries.length := by
    have := List.length_pos_of_mem hj
    rwa [keys, List.length_map] at this
  unfold size at hfull
  omega

/-! ### One key -/

/-- The entries themselves can be taken for the uses. -/
theorem ranked_keys (h : m.keys.Nodup) : Ranked m.keys m := by
  obtain ⟨es⟩ := m
  induction es with
  | nil => exact ranked_empty _
  | cons e es ih =>
    obtain ⟨hk, hes⟩ := List.nodup_cons.mp h
    exact (ih hes).front hk e.2

/-- A key is there, and of all others only some were used after it. -/
def Recent (others : List κ) (k : κ) (m : Recency κ ν) : Prop :=
  ∃ uses, Ranked uses m ∧ k ∈ m.keys ∧ ∀ j ∈ since uses k, j ∈ others

section Recent
variable {others : List κ} {k j : κ} {capacity : Nat}

theorem recent_use (h : m.keys.Nodup) {v : ν} (hf : m.find? k = some v) :
    Recent others k (m.use k) := by
  refine ⟨_, (ranked_keys h).use hf, ?_, ?_⟩
  · rw [mem_keys_iff, find?_use, hf]
    rfl
  · rw [since_cons_self]
    nofun

theorem recent_put (h : m.keys.Nodup) (capacity : Nat) (v : ν) :
    Recent others k (m.put capacity k v) := by
  refine ⟨_, (ranked_keys h).put capacity k v, ?_, ?_⟩
  · rw [mem_keys_iff, find?_put_self]
    rfl
  · rw [since_cons_self]
    nofun

/-- One of the others may be used. -/
theorem Recent.use (h : Recent others k m) (hj : j = k ∨ j ∈ others) :
    Recent others k (m.use j) := by
  obtain ⟨uses, hr, hk, hothers⟩ := h
  cases hf : m.find? j with
  | none =>
    unfold Recency.use
    rw [hf]
    exact ⟨uses, hr, hk, hothers⟩
  | some v =>
    refine ⟨_, hr.use hf, ?_, fun i hi => ?_⟩
    · rw [mem_keys_iff, find?_use]
      exact mem_keys_iff.mp hk
    · by_cases hjk : j = k
      · rw [hjk, since_cons_self] at hi
        cases hi
      · rcases mem_of_mem_since_cons hi with rfl | hi
        · exact hj.resolve_left hjk
        · exact hothers i hi

theorem Recent.erase (h : Recent others k m) (hj : j ≠ k) : Recent others k (m.erase j) := by
  obtain ⟨uses, hr, hk, hothers⟩ := h
  refine ⟨uses, hr.erase j, ?_, hothers⟩
  rw [mem_keys_iff, find?_erase_of_ne m (Ne.symm hj)]
  exact mem_keys_iff.mp hk

/-- Another key may be put in, and the value stays, as long as the others are few enough. -/
theorem Recent.find?_put (h : Recent others k m) (hj : j ∈ others) (hjk : j ≠ k) (v : ν)
    (hroom : others.dedup.length < capacity) : (m.put capacity j v).find? k = m.find? k := by
  obtain ⟨uses, hr, -, hothers⟩ := h
  rcases find?_put_of_ne m capacity v (Ne.symm hjk) with he | ⟨-, d, hv, -⟩
  · exact he
  · have hle := hr.le_since_of_victim? hv
    have hsub : (since (j :: uses) k).dedup.Subperm others.dedup := by
      refine List.subperm_of_subset (List.nodup_dedup _) fun i hi => List.mem_dedup.mpr ?_
      rcases mem_of_mem_since_cons (List.mem_dedup.mp hi) with rfl | hi
      · exact hj
      · exact hothers i hi
    have := hsub.length_le
    omega

theorem Recent.put (h : Recent others k m) (hj : j = k ∨ j ∈ others) (v : ν)
    (hroom : others.dedup.length < capacity) : Recent others k (m.put capacity j v) := by
  by_cases hjk : j = k
  · subst hjk
    obtain ⟨uses, hr, -⟩ := h
    exact recent_put hr.nodup capacity v
  · have hj := hj.resolve_left hjk
    have hfind := h.find?_put hj hjk v hroom
    obtain ⟨uses, hr, hk, hothers⟩ := h
    refine ⟨_, hr.put capacity j v, ?_, fun i hi => ?_⟩
    · rw [mem_keys_iff, hfind]
      exact mem_keys_iff.mp hk
    · rcases mem_of_mem_since_cons hi with rfl | hi
      · exact hj
      · exact hothers i hi

end Recent

end Timelines.Recency
