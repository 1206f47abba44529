import Timelines.Proofs.Cache.Changes

/-! Which slices make room for others.

Who is displaced when a slice is stored for a further user, and when that happens, is told by the
slices that were stored and found before (`displaced_least_recently_used`): it is the user whose
slice has been neither for longest. Nothing else has a bearing on it, but through the versions: they
tell which refills are accepted, and only a refill that is accepted stores a slice
(`evictions_not_always_unmoved`). -/
namespace Timelines.Cache
open Recency (Ranked Recent since)

namespace Store

/-- The users whose slices were stored or found by operations, the latest first. -/
def uses (s : Store) (os : List (Nat × Operation)) : List UserId :=
  ((s.changes os).filterMap Change.used?).reverse

/-- The users other than its own whose slices an operation costs. -/
def displaced (s : Store) (now : Nat) (o : Operation) : List UserId :=
  match o.user? with
  | some u => s.slices.keys.filter fun w => w ≠ u ∧ w ∉ (s.after now o).slices.keys
  | none => []

/-- The users whose slices each of some operations costs. -/
def evictions (s : Store) : List (Nat × Operation) → List (List UserId)
  | [] => []
  | (now, o) :: rest => s.displaced now o :: (s.after now o).evictions rest

theorem uses_cons (s : Store) (o : Nat × Operation) (os : List (Nat × Operation)) :
    s.uses (o :: os) = (s.after o.1 o.2).uses os ++ (s.change o.1 o.2).used?.toList := by
  have hchanges : s.changes (o :: os) = s.change o.1 o.2 :: (s.after o.1 o.2).changes os := rfl
  rw [uses, hchanges, List.filterMap_cons]
  cases (s.change o.1 o.2).used? with
  | none => exact (List.append_nil _).symm
  | some u => exact List.reverse_cons

/-! ### Who is displaced -/

section Displaced
variable {s t : Store} {now : Nat} {o : Operation} {uses : List UserId}

/-- Elements of a list that are told by at most one. -/
theorem filter_eq_toList {α : Type} {l : List α} (hl : l.Nodup) {p : α → Bool} {x : Option α}
    (h : ∀ a, a ∈ l ∧ p a ↔ x = some a) : l.filter p = x.toList := by
  have hperm : (l.filter p).Perm x.toList := by
    refine (List.perm_ext_iff_of_nodup (hl.filter p) ?_).mpr fun a => ?_
    · cases x <;> simp
    · rw [List.mem_filter, Option.mem_toList]
      exact h a
  cases x with
  | none => exact hperm.eq_nil
  | some a => exact List.perm_singleton.mp hperm

/-- An operation costs other users the slice that has to make room, and no other. -/
theorem displaced_eq (h : s.slices.keys.Nodup) (now : Nat) (o : Operation) :
    s.displaced now o = ((s.change now o).victim? s.config.users s.stamps).toList := by
  have hkeys := keys_after s now o
  have huser : s.change now o ≠ .still → o.user? = (s.change now o).user? := user?_of_change
  cases hc : s.change now o with
  | stored u =>
    rw [hc] at hkeys huser
    simp only [displaced, huser Change.noConfusion, Change.user?, hkeys, ← keys_stamps]
    refine filter_eq_toList (by rwa [keys_stamps]) fun w => ?_
    rw [decide_eq_true_iff]
    simp only [Change.victim?, Change.apply, Option.map_eq_some_iff, Prod.exists, exists_and_right,
      exists_eq_right]
    constructor
    · rintro ⟨hw, hne, hlost⟩
      rcases Recency.find?_put_of_ne s.stamps s.config.users now hne with he | ⟨-, d, hv, -⟩
      · rw [Recency.mem_keys_iff, he] at hlost
        exact absurd (Recency.mem_keys_iff.mp hw) hlost
      · exact ⟨d, hv⟩
    · rintro ⟨d, hv⟩
      have hw : w ∈ s.stamps.keys := List.mem_map_of_mem (Recency.mem_of_victim? hv)
      have hu : u ∉ s.stamps.keys := Recency.not_mem_keys_of_victim? hv
      refine ⟨hw, fun he => hu (he ▸ hw), ?_⟩
      exact Recency.not_mem_keys_put_of_victim? (by rwa [keys_stamps]) hv now
  | found u =>
    rw [hc] at hkeys huser
    simp only [displaced, huser Change.noConfusion, Change.user?, hkeys]
    refine List.filter_eq_nil_iff.mpr fun w hw hlost => ?_
    have hlost := (of_decide_eq_true hlost).2
    rw [Change.apply, Recency.mem_keys_iff, Recency.find?_use, ← Recency.mem_keys_iff,
      keys_stamps] at hlost
    exact hlost hw
  | dropped u =>
    rw [hc] at hkeys huser
    simp only [displaced, huser Change.noConfusion, Change.user?, hkeys]
    refine List.filter_eq_nil_iff.mpr fun w hw hlost => ?_
    obtain ⟨hne, hlost⟩ := of_decide_eq_true hlost
    rw [Change.apply, Recency.mem_keys_iff, Recency.find?_erase_of_ne _ hne,
      ← Recency.mem_keys_iff, keys_stamps] at hlost
    exact hlost hw
  | cleared =>
    rw [hc] at huser
    simp only [displaced, huser Change.noConfusion]
    rfl
  | still =>
    rw [hc] at hkeys
    unfold displaced
    split
    next =>
      refine List.filter_eq_nil_iff.mpr fun w hw hlost => ?_
      have hlost := (of_decide_eq_true hlost).2
      rw [hkeys, Change.apply, keys_stamps] at hlost
      exact hlost hw
    next => rfl

/-- A slice is displaced when one is stored for a user without a slice while as many are there as
are kept, and it is that of the user whose slice was neither stored nor found for longest. -/
theorem mem_displaced_iff (hr : Ranked uses s.stamps) (hsize : s.size ≤ s.config.users)
    (now : Nat) (o : Operation) (w : UserId) :
    w ∈ s.displaced now o ↔ ∃ u, s.change now o = .stored u ∧ u ∉ s.slices.keys ∧
      s.size = s.config.users ∧ w ∈ s.slices.keys ∧
        ∀ v ∈ s.slices.keys, v ≠ w → v ∈ since uses w := by
  have hstamps : s.stamps.size = s.size := Recency.size_map ..
  rw [displaced_eq (keys_stamps s ▸ hr.nodup), Option.mem_toList, ← keys_stamps]
  constructor
  · intro hw
    cases hc : s.change now o with
    | stored u =>
      rw [hc, Change.victim?] at hw
      obtain ⟨⟨w', d⟩, hv, rfl⟩ := Option.map_eq_some_iff.mp hw
      have hfull := Recency.le_size_of_victim? (by rw [hv]; exact Option.some_ne_none _ :
        s.stamps.victim? s.config.users u ≠ none)
      exact ⟨u, rfl, Recency.not_mem_keys_of_victim? hv, Nat.le_antisymm hsize (hstamps ▸ hfull),
        hr.mem_since_of_victim? hv⟩
    | _ =>
      rw [hc] at hw
      cases hw
  · rintro ⟨u, hc, hu, hfull, hw, hothers⟩
    have hpos : 0 < s.config.users := Nat.le_max_left ..
    obtain ⟨⟨v, d⟩, hv⟩ := Recency.exists_victim? hu hpos
      (Nat.le_of_eq (hfull.symm.trans hstamps.symm))
    obtain ⟨hvin, hsince⟩ := hr.mem_since_of_victim? hv
    -- Of two users of whom each had longer no use than the other there is none.
    have hvw : v = w := by
      by_contra hne
      exact Recency.not_mem_since_of_mem (hothers v hvin hne) (hsince w hw (Ne.symm hne))
    rw [hc, Change.victim?, hv, hvw]
    rfl

/-- Each displaced slice is counted, and nothing else is. -/
theorem evictions_eq (h : s.slices.keys.Nodup) (now : Nat) (o : Operation) :
    (s.after now o).tally.evictions = s.tally.evictions + (s.displaced now o).length := by
  rw [evictions_after, displaced_eq h]
  cases s.change now o with
  | stored u =>
    simp only [Change.victim?, stamps, Recency.map_victim?, Option.map_map]
    rfl
  | _ => rfl

theorem length_displaced_le (h : s.slices.keys.Nodup) (now : Nat) (o : Operation) :
    (s.displaced now o).length ≤ 1 := by
  rw [displaced_eq h]
  exact Option.length_toList_le

theorem displaced_congr (hc : s.config = t.config) (hs : s.stamps = t.stamps)
    (h : s.change now o = t.change now o) : s.displaced now o = t.displaced now o := by
  have hkeys : s.slices.keys = t.slices.keys := by rw [← keys_stamps, ← keys_stamps, hs]
  have hafter : (s.after now o).slices.keys = (t.after now o).slices.keys := by
    rw [keys_after, keys_after, h, hc, hs]
  unfold displaced
  rw [hkeys, hafter]

end Displaced

/-! ### Runs -/

section Run
variable {s t : Store} {uses : List UserId}

theorem ranked_after (h : Ranked uses s.stamps) (now : Nat) (o : Operation) :
    Ranked ((s.change now o).used?.toList ++ uses) (s.after now o).stamps := by
  rw [stamps_after]
  cases hc : s.change now o with
  | stored u => exact h.put ..
  | found u =>
    obtain ⟨stamp, hstamp⟩ := find?_of_found hc
    exact h.use hstamp
  | dropped u => exact h.erase u
  | cleared => exact Recency.ranked_empty uses
  | still => exact h

/-- The slices are in the order in which they were last stored or found. -/
theorem ranked_run (h : Ranked uses s.stamps) (os : List (Nat × Operation)) :
    Ranked (s.uses os ++ uses) (s.run os).stamps := by
  induction os generalizing s uses with
  | nil => exact h
  | cons o rest ih =>
    rw [uses_cons, List.append_assoc]
    exact ih (ranked_after h o.1 o.2)

theorem ranked_create (config : Config) (os : List (Nat × Operation)) :
    Ranked ((create config).uses os) ((create config).run os).stamps := by
  have h := ranked_run (s := create config) (Recency.ranked_empty []) os
  rwa [List.append_nil] at h

/-- Caches with the same order of slices go on to lose the same slices, as long as the same
operations store one. -/
theorem evictions_congr (hc : s.config = t.config) (hs : s.stamps = t.stamps)
    (os : List (Nat × Operation))
    (h : (s.changes os).map Change.stores = (t.changes os).map Change.stores) :
    s.evictions os = t.evictions os := by
  induction os generalizing s t with
  | nil => rfl
  | cons o rest ih =>
    obtain ⟨hfirst, hrest⟩ := List.cons.inj h
    have hchange := change_congr hc hs hfirst
    have hc' : (s.after o.1 o.2).config = (t.after o.1 o.2).config := by
      rw [config_after, config_after, hc]
    have hs' : (s.after o.1 o.2).stamps = (t.after o.1 o.2).stamps := by
      rw [stamps_after, stamps_after, hchange, hc, hs]
    exact congrArg₂ List.cons (displaced_congr hc hs hchange) (ih hc' hs' hrest)

section Recent
variable {u : UserId} {others : List UserId}

theorem recent_of_used {now : Nat} {o : Operation} (h : s.slices.keys.Nodup)
    (hu : (s.change now o).used? = some u) : Recent others u (s.after now o).stamps := by
  rw [← keys_stamps] at h
  rw [stamps_after]
  cases hc : s.change now o with
  | stored w =>
    rw [hc] at hu
    cases hu
    exact Recency.recent_put h ..
  | found w =>
    rw [hc] at hu
    cases hu
    obtain ⟨stamp, hstamp⟩ := find?_of_found hc
    exact Recency.recent_use h hstamp
  | _ =>
    rw [hc] at hu
    cases hu

theorem recent_after (h : Recent others u s.stamps) {now : Nat} {o : Operation}
    (hdropped : s.change now o ≠ .dropped u) (hcleared : s.change now o ≠ .cleared)
    (hused : ∀ w, (s.change now o).used? = some w → w ≠ u → w ∈ others)
    (hroom : others.dedup.length < s.config.users) : Recent others u (s.after now o).stamps := by
  rw [stamps_after]
  cases hc : s.change now o with
  | stored w =>
    rw [hc] at hused
    exact h.put (or_iff_not_imp_left.mpr (hused w rfl)) _ hroom
  | found w =>
    rw [hc] at hused
    exact h.use (or_iff_not_imp_left.mpr (hused w rfl))
  | dropped w => exact h.erase fun he => hdropped (he ▸ hc)
  | cleared => exact absurd hc hcleared
  | still => exact h

theorem recent_run (h : Recent others u s.stamps) (os : List (Nat × Operation))
    (hdropped : .dropped u ∉ s.changes os) (hcleared : .cleared ∉ s.changes os)
    (hused : ∀ w ∈ s.uses os, w ≠ u → w ∈ others)
    (hroom : others.dedup.length < s.config.users) : Recent others u (s.run os).stamps := by
  induction os generalizing s with
  | nil => exact h
  | cons o rest ih =>
    obtain ⟨hd, hdropped⟩ := not_or.mp (mt List.mem_cons.mpr hdropped)
    obtain ⟨hl, hcleared⟩ := not_or.mp (mt List.mem_cons.mpr hcleared)
    rw [uses_cons] at hused
    have hfirst := recent_after h (Ne.symm hd) (Ne.symm hl) (fun w hw =>
      hused w (List.mem_append_right _ (Option.mem_toList.mpr hw))) hroom
    refine ih hfirst hdropped hcleared (fun w hw => hused w (List.mem_append_left _ hw)) ?_
    rw [config_after]
    exact hroom

end Recent
end Run

/-- **The slice displaced is the one least recently used.** After any operations on a cache:

* An operation costs another user the slice just when it stores one for a user without a slice while
  as many are there as are kept; and then it costs that user who has gone longest without the slice
  being stored or found. No other operation is counted as having cost a slice, and this one once.
* Operations aside leave the slices in their order, and from then on the same slices are displaced
  as without them, as long as the same later operations store a slice.
* A slice that was stored or found is there until it is dropped, or all slices are, or the slices of
  as many other users as are kept have been stored or found. -/
theorem displaced_least_recently_used (config : Config) (before : List (Nat × Operation)) :
    let s := (create config).run before
    let uses := (create config).uses before
    ((∀ w ∈ s.slices.keys, w ∈ uses) ∧
      ∀ now o w, w ∈ s.displaced now o ↔ ∃ u, s.change now o = .stored u ∧ u ∉ s.slices.keys ∧
        s.size = config.users ∧ w ∈ s.slices.keys ∧
          ∀ v ∈ s.slices.keys, v ≠ w → v ∈ since uses w) ∧
    (∀ now o, (s.displaced now o).length ≤ 1 ∧
      (s.after now o).tally.evictions = s.tally.evictions + (s.displaced now o).length) ∧
    (∀ now o later, s.Aside now o → (s.after now o).slices.keys = s.slices.keys ∧
      (((s.after now o).changes later).map Change.stores = (s.changes later).map Change.stores →
        (s.after now o).evictions later = s.evictions later)) ∧
    ∀ now o u later, (s.change now o).used? = some u →
      .dropped u ∉ (s.after now o).changes later → .cleared ∉ (s.after now o).changes later →
      (((s.after now o).uses later).filter (· ≠ u)).dedup.length < config.users →
      u ∈ ((s.after now o).run later).slices.keys := by
  intro s uses
  obtain ⟨hconfig, hwell, -⟩ := wellformed_run config before
  have hr : Ranked uses s.stamps := ranked_create config before
  have hsize : s.size ≤ s.config.users := hwell.slices
  refine ⟨⟨fun w hw => ?_, fun now o w => ?_⟩, fun now o => ⟨?_, ?_⟩, fun now o later ha => ?_, ?_⟩
  · exact hr.used w (keys_stamps s ▸ hw)
  · have hiff := mem_displaced_iff hr hsize now o w
    rwa [show s.config = config from hconfig] at hiff
  · exact length_displaced_le hwell.slices_nodup now o
  · exact evictions_eq hwell.slices_nodup now o
  · have hstamps : (s.after now o).stamps = s.stamps := by
      rw [stamps_after, change_of_aside ha]
      rfl
    refine ⟨?_, evictions_congr (config_after s now o) hstamps later⟩
    rw [← keys_stamps, hstamps, keys_stamps]
  · intro now o u later hu hdropped hcleared hroom
    let others := ((s.after now o).uses later).filter (· ≠ u)
    have hstart : Recent others u (s.after now o).stamps := recent_of_used hwell.slices_nodup hu
    have hothers : ∀ w ∈ (s.after now o).uses later, w ≠ u → w ∈ others := fun w hw hne =>
      List.mem_filter.mpr ⟨hw, decide_eq_true hne⟩
    have hconfig' : (s.after now o).config = config := (config_after s now o).trans hconfig
    obtain ⟨-, -, hmem, -⟩ :=
      recent_run hstart later hdropped hcleared hothers (by rwa [hconfig'])
    rwa [keys_stamps] at hmem

/-- In a cache for two users alice's slice is stored first and found last. So bob's makes room for
carol's, even if a post is put into bob's slice before, and alice's is still there then. -/
theorem displaced_least_recently_used_of_found :
    let alice : UserId := ⟨"alice"⟩
    let bob : UserId := ⟨"bob"⟩
    let carol : UserId := ⟨"carol"⟩
    let p : Post := default
    let q : Post := { p with id := ⟨.ofNat 1⟩ }
    let s := (create ⟨2, 10, none⟩).run [(0, .set alice [p]), (1, .set bob [p]), (2, .get alice)]
    let pushed := s.after 3 (.push bob q 10)
    bob ∈ s.displaced 4 (.set carol [p]) ∧ (s.after 4 (.set carol [p])).tally.evictions = 1 ∧
      pushed.evictions [(4, .set carol [p])] = s.evictions [(4, .set carol [p])] ∧
      alice ∈ ((s.after 3 (.get alice)).run [(4, .set carol [p])]).slices.keys := by
  intro alice bob carol p q s pushed
  obtain ⟨⟨-, hdisplaced⟩, hcount, haside, hkept⟩ := displaced_least_recently_used ⟨2, 10, none⟩
    [(0, .set alice [p]), (1, .set bob [p]), (2, .get alice)]
  have hbob : bob ∈ s.displaced 4 (.set carol [p]) :=
    (hdisplaced ..).mpr ⟨carol, rfl, by decide, by decide, by decide, by decide⟩
  refine ⟨hbob, ?_, ?_, ?_⟩
  · have hone := List.length_pos_of_mem hbob
    have hnone : s.tally.evictions = 0 := by decide
    have hmost : (s.displaced 4 (.set carol [p])).length ≤ 1 ∧
        (s.after 4 (.set carol [p])).tally.evictions =
          s.tally.evictions + (s.displaced 4 (.set carol [p])).length := hcount 4 _
    omega
  · exact (haside 3 _ _ (.pushed q 10 rfl rfl)).2 (by decide)
  · exact hkept 3 _ alice _ (by decide) (by decide) (by decide) (by decide)

/-- A cache for one user, that is dave. Bob's version is told, and then carol's, for which bob's is
forgotten; so bob's refill, which would have displaced dave's slice, is refused. -/
theorem evictions_not_always_unmoved :
    ¬∀ (config : Config) (before later : List (Nat × Operation)) (now : Nat) (o : Operation),
      ((create config).run before).Aside now o →
        (((create config).run before).after now o).evictions later =
          ((create config).run before).evictions later := by
  intro hall
  have halike := hall ⟨1, 10, none⟩
    [(0, .set ⟨"dave"⟩ [default]), (0, .invalidate ⟨"erin"⟩), (0, .version ⟨"bob"⟩)]
    [(0, .refill ⟨"bob"⟩ [default] 0)] 0 (.version ⟨"carol"⟩) (.asked _)
  exact absurd halike (by decide)

end Store
end Timelines.Cache
