import Timelines.Json.Record
import Timelines.Proofs.Except

/-! What a record is read from.

`exists_of_readRecord`: what holds of nothing read yet, and is kept by the reading of every field,
holds of what a record is made from, whether it stood there as an object or as an array. -/
namespace Timelines.Json
variable {σ α : Type}

theorem fillMembers_induction {fields : List (RecordField σ)} {P : σ → Prop}
    (hread : ∀ f ∈ fields, ∀ d s s', P s → f.read d s = .ok s' → P s')
    {members : List (Except Fault String × Doc)} {s s' : σ} (hs : P s)
    (h : fillMembers fields members s = .ok s') : P s' := by
  induction members generalizing s with
  | nil =>
    cases h
    exact hs
  | cons m rest ih =>
    obtain ⟨_ | key, d⟩ := m
    · cases h
    · simp only [fillMembers, bind, Except.bind] at h
      split at h
      next field hfield =>
        split at h
        next => cases h
        next =>
          split at h
          next => cases h
          next s₁ hs₁ => exact ih (hread field (List.mem_of_find?_eq_some hfield) d s s₁ hs hs₁) h
      next =>
        split at h
        next => cases h
        next => exact ih hs h

theorem fillItems_induction {fields : List (RecordField σ)} {P : σ → Prop}
    (hread : ∀ f ∈ fields, ∀ d s s', P s → f.read d s = .ok s' → P s') {items : List Doc}
    {s : σ} {r : σ × List Doc × Bool} (hs : P s) (h : fillItems fields items s = .ok r) :
    P r.1 := by
  induction fields generalizing items s with
  | nil =>
    cases h
    exact hs
  | cons field fields ih =>
    cases items with
    | nil =>
      cases h
      exact hs
    | cons d items =>
      simp only [fillItems, bind, Except.bind] at h
      split at h
      next => cases h
      next s₁ hs₁ =>
        exact ih (fun f hf => hread f (List.mem_cons_of_mem field hf))
          (hread field List.mem_cons_self d s s₁ hs hs₁) h

/-- What holds at the start and is kept by the reading of every field holds of what a record is made
from. -/
theorem exists_of_readRecord {fields : List (RecordField σ)} {start : σ} {finish : σ → Option α}
    {P : σ → Prop} (hstart : P start)
    (hread : ∀ f ∈ fields, ∀ d s s', P s → f.read d s = .ok s' → P s') {d : Doc} {a : α}
    (h : readRecord fields start finish d = .ok a) : ∃ s, P s ∧ finish s = some a := by
  unfold readRecord at h
  split at h
  next members ending =>
    simp only [bind, Except.bind] at h
    split at h
    next => cases h
    next s hs =>
      split at h
      next => cases h
      next =>
        split at h
        next a' ha =>
          cases h
          exact ⟨s, fillMembers_induction hread hstart hs, ha⟩
        next => cases h
  next items ending =>
    simp only [bind, Except.bind] at h
    split at h
    next => cases h
    next r hr =>
      -- Wherever the items end, nothing is given but what was finished.
      cases ha : finish r.1 with
      | none =>
        simp only [ha] at h
        repeat' split at h
        all_goals cases h
      | some b =>
        simp only [ha] at h
        refine ⟨r.1, fillItems_induction hread hstart hr, ?_⟩
        repeat' split at h
        all_goals cases h
        all_goals exact ha
  next => cases h

end Timelines.Json
