/-! Steps of which the first that fails ends the whole, and failures told in other words. -/
namespace Timelines

/-- What succeeds went through its first part. -/
theorem exists_of_bind {ε α β : Type} {x : Except ε α} {f : α → Except ε β} {b : β}
    (h : x >>= f = .ok b) : ∃ a, x = .ok a ∧ f a = .ok b := by
  cases x with
  | error e => cases h
  | ok a => exact ⟨a, rfl, h⟩

/-- What is made at the end is made of what succeeded. -/
theorem exists_of_read {ε α β : Type} {x : Except ε α} {f : α → β} {b : β}
    (h : (do return f (← x)) = .ok b) : ∃ a, x = .ok a ∧ f a = b := by
  obtain ⟨a, ha, h⟩ := exists_of_bind h
  cases h
  exact ⟨a, ha, rfl⟩

@[simp] theorem mapError_ok {ε ε' α : Type} (f : ε → ε') (a : α) :
    (.ok a : Except ε α).mapError f = .ok a := rfl

@[simp] theorem mapError_error {ε ε' α : Type} (f : ε → ε') (e : ε) :
    (.error e : Except ε α).mapError f = .error (f e) := rfl

end Timelines
