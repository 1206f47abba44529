import Timelines.Url.Percent

/-! Percent-encoding read back.

The bytes of an encoded text are those of the text, whatever characters are encoded, as long as
percent signs are among them (`decode_encode`). -/
namespace Timelines.Url.Percent
open Text

theorem decode_cons {c : Char} (h : c ≠ '%') (rest : List Char) :
    decode (c :: rest) = String.utf8EncodeChar c ++ decode rest := by
  rw [decode]
  exact fun _ _ _ hc _ => h hc

theorem decode_encodeByte (b : UInt8) (rest : List Char) :
    decode (encodeByte b ++ rest) = b :: decode rest := by
  have hb : b.toNat < 256 := b.toNat_lt
  rw [encodeByte, List.cons_append, List.cons_append, List.cons_append, List.nil_append, decode,
    Hex.value?_digitUpper (by omega), Hex.value?_digitUpper (by omega)]
  simp only [Nat.div_add_mod, UInt8.ofNat_toNat]

theorem decode_flatMap_encodeByte (bs : List UInt8) (rest : List Char) :
    decode (bs.flatMap encodeByte ++ rest) = bs ++ decode rest := by
  induction bs with
  | nil => rfl
  | cons b bs ih => rw [List.flatMap_cons, List.append_assoc, decode_encodeByte, ih]; rfl

/-- A text is read back from its encoding if percent signs are encoded with the rest. -/
theorem decode_encode {set : Char → Bool} (h : set '%' = true) (cs : List Char) :
    decode (encode set cs) = cs.flatMap String.utf8EncodeChar := by
  induction cs with
  | nil => rfl
  | cons c cs ih =>
    rw [encode, List.flatMap_cons, List.flatMap_cons, ← encode]
    cases hc : set c with
    | true => rw [if_pos rfl, decode_flatMap_encodeByte, ih]
    | false =>
      have hne : c ≠ '%' := fun he => by rw [he, h] at hc; cases hc
      rw [if_neg Bool.false_ne_true, List.singleton_append, decode_cons hne, ih]

/-- What stands in an encoding: characters that need none, percent signs and digits. -/
theorem mem_encode {set : Char → Bool} {cs : List Char} {c : Char} (h : c ∈ encode set cs) :
    set c = false ∨ c = '%' ∨ ∃ n < 16, c = Hex.digitUpper n := by
  obtain ⟨d, -, hc⟩ := List.mem_flatMap.mp h
  cases hd : set d with
  | false =>
    rw [hd, if_neg Bool.false_ne_true, List.mem_singleton] at hc
    exact .inl (hc ▸ hd)
  | true =>
    rw [hd, if_pos rfl] at hc
    obtain ⟨b, -, hc⟩ := List.mem_flatMap.mp hc
    have hb : b.toNat < 256 := b.toNat_lt
    simp only [encodeByte, List.mem_cons, List.not_mem_nil, or_false] at hc
    obtain rfl | rfl | rfl := hc
    · exact .inr (.inl rfl)
    · exact .inr (.inr ⟨_, by omega, rfl⟩)
    · exact .inr (.inr ⟨_, by omega, rfl⟩)

end Timelines.Url.Percent
