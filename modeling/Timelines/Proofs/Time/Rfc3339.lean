import Timelines.Proofs.Time.Calendar
import Timelines.Time.Rfc3339

/-! The written form of a moment reads back.

`parse?_text`: what is written is read as the same moment, its offset included.
`writable_of_parse?`: what was read can be written again. -/
namespace Timelines.Moment
open Text

/-! ### Fractions -/

/-- A fraction without its trailing zeros, with enough zeros behind it to make up its width. -/
theorem exists_trimmed (ds : List Char) :
    ∃ k, ds = (ds.reverse.dropWhile (· == '0')).reverse ++ List.replicate k '0' := by
  have hz : ds.reverse.takeWhile (· == '0') =
      List.replicate (ds.reverse.takeWhile (· == '0')).length '0' :=
    List.eq_replicate_of_mem fun c hc => by
      simpa using List.all_eq_true.mp List.all_takeWhile c hc
  refine ⟨(ds.reverse.takeWhile (· == '0')).length, ?_⟩
  calc ds = (ds.reverse.takeWhile (· == '0') ++ ds.reverse.dropWhile (· == '0')).reverse := by
        rw [List.takeWhile_append_dropWhile, List.reverse_reverse]
    _ = (ds.reverse.dropWhile (· == '0')).reverse ++
          (ds.reverse.takeWhile (· == '0')).reverse := List.reverse_append
    _ = _ := congrArg _ (by rw [hz, List.reverse_replicate, List.length_replicate])

/-- What follows a number is none of it. -/
def Ends (rest : List Char) : Prop := ∀ c ∈ rest.head?, Decimal.isDigit c = false ∧ c ≠ '.'

theorem takeWhile_digits {ds rest : List Char} (h : ∀ c ∈ ds, Decimal.isDigit c = true)
    (hr : Ends rest) :
    (ds ++ rest).takeWhile Decimal.isDigit = ds ∧
      (ds ++ rest).dropWhile Decimal.isDigit = rest := by
  rw [List.takeWhile_append_of_pos h, List.dropWhile_append_of_pos h]
  cases rest with
  | nil => simp
  | cons c rest => simp [(hr c (by simp)).1]

theorem fractionNanos_padded {ds : List Char} {n k : Nat} (hn : n < 10 ^ 9)
    (h : Decimal.padded 9 n = ds ++ List.replicate k '0') : fractionNanos ds = n := by
  have hlen : ds.length + k = 9 := by
    have := congrArg List.length h
    simpa using this.symm
  have htake : (ds ++ List.replicate 9 '0').take 9 = Decimal.padded 9 n := by
    rw [h, List.take_append, List.take_of_length_le (by omega), List.take_replicate]
    congr 2
    omega
  rw [fractionNanos, htake, Decimal.read?_padded]
  simpa using Nat.mod_eq_of_lt hn

/-- Fractions read back, whatever follows that is no digit. -/
theorem readFraction?_chars {n : Nat} (h : n < 10 ^ 9) {rest : List Char} (hr : Ends rest) :
    readFraction? (fractionChars n ++ rest) = some (n, rest) := by
  unfold fractionChars
  by_cases h0 : n = 0
  · subst h0
    rw [if_pos rfl, List.nil_append, readFraction?]
    rintro rest rfl
    exact (hr '.' rfl).2 rfl
  · rw [if_neg h0]
    obtain ⟨k, hk⟩ := exists_trimmed (Decimal.padded 9 n)
    generalize ((Decimal.padded 9 n).reverse.dropWhile (· == '0')).reverse = ds at hk ⊢
    have hds : ∀ c ∈ ds, Decimal.isDigit c = true := fun c hc =>
      Decimal.isDigit_of_mem_padded (by rw [hk]; exact List.mem_append_left _ hc)
    have hnanos := fractionNanos_padded h hk
    have hne : ds ≠ [] := by
      rintro rfl
      exact h0 (hnanos.symm.trans rfl)
    obtain ⟨htake, hdrop⟩ := takeWhile_digits hds hr
    simp [readFraction?, htake, hdrop, hnanos, hne]

/-! ### Offsets -/

theorem ends_offsetChars (offset : Int) : Ends (offsetChars offset) := by
  intro c hc
  unfold offsetChars at hc
  split at hc
  next =>
    obtain rfl : 'Z' = c := by simpa using hc
    decide
  next =>
    split at hc <;> (obtain rfl : _ = c := by simpa using hc) <;> decide

theorem readOffset?_chars {offset : Int} (h : offset.natAbs < 24 * 60) :
    readOffset? (offsetChars offset) = some offset := by
  obtain ⟨hour, hhour⟩ : ∃ hour, hour = offset.natAbs / 60 := ⟨_, rfl⟩
  obtain ⟨minute, hminute⟩ : ∃ minute, minute = offset.natAbs % 60 := ⟨_, rfl⟩
  have hm : minute < 60 := by omega
  have hh : hour < 24 := by omega
  have hread (rest) := Decimal.take?_padded_of_lt (by omega : hour < 10 ^ 2) rest
  have hlast := Decimal.take?_padded_of_lt (by omega : minute < 10 ^ 2) []
  rw [List.append_nil] at hlast
  by_cases h0 : offset = 0
  · rw [h0]
    rfl
  · by_cases hneg : offset < 0
    · simp only [offsetChars, h0, hneg, ← hhour, ← hminute, if_true, if_false]
      simp [readOffset?, hread, hlast, expect?]
      omega
    · simp only [offsetChars, h0, hneg, ← hhour, ← hminute, if_false]
      simp [readOffset?, hread, hlast, expect?]
      omega

/-! ### Bounds of what is read -/

theorem fractionNanos_lt (ds : List Char) : fractionNanos ds < 10 ^ 9 := by
  unfold fractionNanos
  cases h : Decimal.read? 0 ((ds ++ List.replicate 9 '0').take 9) with
  | none => simp
  | some n => simpa using Decimal.read?_lt h

theorem lt_of_readFraction? {cs rest : List Char} {n : Nat}
    (h : readFraction? cs = some (n, rest)) : n < 10 ^ 9 := by
  unfold readFraction? at h
  split at h
  next =>
    simp only at h
    split at h
    next => cases h
    next =>
      cases h
      exact fractionNanos_lt _
  next =>
    cases h
    decide

/-- Offsets that are read are less than a day. -/
theorem natAbs_lt_of_readOffset? {cs : List Char} {offset : Int}
    (h : readOffset? cs = some offset) : offset.natAbs < 24 * 60 := by
  unfold readOffset? at h
  split at h
  next => cases h; decide
  next => cases h; decide
  next sign rest _ _ =>
    simp only [Option.bind_eq_bind, Option.bind_eq_some_iff] at h
    obtain ⟨⟨hour, rest⟩, -, rest', -, ⟨minute, last⟩, -, h⟩ := h
    simp only at h
    split at h
    next => cases h
    next hbound =>
      split at h
      next => cases h; omega
      next =>
        split at h
        next => cases h; omega
        next => cases h
  next => cases h

theorem writable_iff {m : Moment} :
    m.writable = true ↔
      (0 ≤ m.localDate.year ∧ m.localDate.year ≤ 9999) ∧ m.offset.natAbs < 24 * 60 := by
  simp only [writable, unwritable?]
  by_cases hy : m.localDate.year < 0 ∨ 9999 < m.localDate.year
  · simp only [hy, if_true, Option.isNone_some, Bool.false_eq_true, false_iff]
    omega
  · by_cases ho : 24 * 60 ≤ m.offset.natAbs
    · simp only [hy, ho, if_true, if_false, Option.isNone_some, Bool.false_eq_true, false_iff]
      omega
    · simp only [hy, ho, if_false, Option.isNone_none, true_iff]
      omega

/-! ### Moments -/

/-- The moment that the parts of a written form make, if there is one. -/
def assemble? (date : Date) (hour minute second fraction : Nat) (offset : Int) : Option Moment :=
  if ¬date.Valid ∨ hour > 23 ∨ minute > 59 ∨ second > 60 then none
  else
    let leap : Bool := second = 60
    let seconds : Int := date.dayNumber * 86400 + (hour * 3600 + minute * 60 +
      (if leap then 59 else second) : Nat) - offset * 60
    let m : Moment :=
      ⟨seconds * nanosPerSecond + (if leap then 999999999 else fraction : Nat), offset⟩
    if leap && !m.endsMonth then none else some m

theorem bind_of_eq {α β : Type} {x : Option α} {a : α} (h : x = some a) (f : α → Option β) :
    x >>= f = f a := by
  rw [h]
  rfl

@[simp] theorem expect?_self (c : Char) (rest : List Char) : expect? c (c :: rest) = some rest := by
  simp [expect?]

/-- Parts that are written one after the other are read as they are. -/
theorem ofChars?_padded {year month day hour minute second fraction : Nat} {offset : Int}
    {cs rest : List Char} (hyear : year < 10 ^ 4) (hmonth : month < 10 ^ 2) (hday : day < 10 ^ 2)
    (hhour : hour < 10 ^ 2) (hminute : minute < 10 ^ 2) (hsecond : second < 10 ^ 2)
    (hf : readFraction? cs = some (fraction, rest)) (ho : readOffset? rest = some offset) :
    ofChars? (Decimal.padded 4 year ++ '-' :: Decimal.padded 2 month ++
      '-' :: Decimal.padded 2 day ++ 'T' :: Decimal.padded 2 hour ++
      ':' :: Decimal.padded 2 minute ++ ':' :: Decimal.padded 2 second ++ cs) =
    assemble? ⟨year, month, day⟩ hour minute second fraction offset := by
  have hseparator (rest) : separator? ('T' :: rest) = some rest := rfl
  simp only [List.append_assoc, List.cons_append]
  -- One reader after the other: to rewrite all binds at once takes up each as often as it is
  -- nested.
  refine (bind_of_eq (Decimal.take?_padded_of_lt hyear _) _).trans ?_
  refine (bind_of_eq (expect?_self _ _) _).trans ?_
  refine (bind_of_eq (Decimal.take?_padded_of_lt hmonth _) _).trans ?_
  refine (bind_of_eq (expect?_self _ _) _).trans ?_
  refine (bind_of_eq (Decimal.take?_padded_of_lt hday _) _).trans ?_
  refine (bind_of_eq (hseparator _) _).trans ?_
  refine (bind_of_eq (Decimal.take?_padded_of_lt hhour _) _).trans ?_
  refine (bind_of_eq (expect?_self _ _) _).trans ?_
  refine (bind_of_eq (Decimal.take?_padded_of_lt hminute _) _).trans ?_
  refine (bind_of_eq (expect?_self _ _) _).trans ?_
  refine (bind_of_eq (Decimal.take?_padded_of_lt hsecond _) _).trans ?_
  exact (bind_of_eq hf _).trans (bind_of_eq ho _)

/-- What is read is made of such parts. -/
theorem assemble?_of_parse? {s : String} {m : Moment} (h : parse? s = some m) :
    ∃ year month day hour minute second fraction : Nat, ∃ offset : Int,
      year < 10 ^ 4 ∧ fraction < 10 ^ 9 ∧ offset.natAbs < 24 * 60 ∧
        assemble? ⟨year, month, day⟩ hour minute second fraction offset = some m := by
  simp only [parse?, ofChars?] at h
  obtain ⟨⟨year, cs⟩, hyear, h⟩ := Option.bind_eq_some_iff.mp h
  obtain ⟨cs, -, h⟩ := Option.bind_eq_some_iff.mp h
  obtain ⟨⟨month, cs⟩, -, h⟩ := Option.bind_eq_some_iff.mp h
  obtain ⟨cs, -, h⟩ := Option.bind_eq_some_iff.mp h
  obtain ⟨⟨day, cs⟩, -, h⟩ := Option.bind_eq_some_iff.mp h
  obtain ⟨cs, -, h⟩ := Option.bind_eq_some_iff.mp h
  obtain ⟨⟨hour, cs⟩, -, h⟩ := Option.bind_eq_some_iff.mp h
  obtain ⟨cs, -, h⟩ := Option.bind_eq_some_iff.mp h
  obtain ⟨⟨minute, cs⟩, -, h⟩ := Option.bind_eq_some_iff.mp h
  obtain ⟨cs, -, h⟩ := Option.bind_eq_some_iff.mp h
  obtain ⟨⟨second, cs⟩, -, h⟩ := Option.bind_eq_some_iff.mp h
  obtain ⟨⟨fraction, cs⟩, hfraction, h⟩ := Option.bind_eq_some_iff.mp h
  obtain ⟨offset, hoffset, h⟩ := Option.bind_eq_some_iff.mp h
  exact ⟨year, month, day, hour, minute, second, fraction, offset, Decimal.take?_lt hyear,
    lt_of_readFraction? hfraction, natAbs_lt_of_readOffset? hoffset, h⟩

/-- A moment made of parts is on their date, at a time of the day, with the offset. -/
theorem of_assemble? {date : Date} {hour minute second fraction : Nat} {offset : Int} {m : Moment}
    (hf : fraction < 10 ^ 9) (h : assemble? date hour minute second fraction offset = some m) :
    date.Valid ∧ m.offset = offset ∧ ∃ time : Nat, (time : Int) < nanosPerDay ∧
      m.localNanos = date.dayNumber * nanosPerDay + time := by
  unfold assemble? at h
  by_cases hp : ¬date.Valid ∨ hour > 23 ∨ minute > 59 ∨ second > 60
  · rw [if_pos hp] at h
    cases h
  rw [if_neg hp] at h
  simp only [not_or, not_not, not_lt] at hp
  obtain ⟨hvalid, hhour, hminute, hsecond⟩ := hp
  simp only [Option.ite_none_left_eq_some, Option.some.injEq] at h
  obtain ⟨-, rfl⟩ := h
  -- A leap second is the end of the second before it.
  obtain ⟨seconds, hs⟩ : ∃ n, n = if second = 60 then 59 else second := ⟨_, rfl⟩
  obtain ⟨nanos, hn⟩ : ∃ n, n = if second = 60 then 999999999 else fraction := ⟨_, rfl⟩
  have hs' : seconds < 60 := by split at hs <;> omega
  have hn' : nanos < 10 ^ 9 := by split at hn <;> omega
  refine ⟨hvalid, rfl, (hour * 3600 + minute * 60 + seconds) * 1000000000 + nanos, ?_, ?_⟩
  · unfold nanosPerDay nanosPerSecond
    omega
  · simp only [localNanos, nanosPerDay, nanosPerMinute, nanosPerSecond, decide_eq_true_eq, ← hs,
      ← hn]
    omega

theorem localDate_of_localNanos {m : Moment} {date : Date} {time : Nat} (hv : date.Valid)
    (ht : (time : Int) < nanosPerDay)
    (h : m.localNanos = date.dayNumber * nanosPerDay + time) : m.localDate = date := by
  have hday : m.localNanos / nanosPerDay = date.dayNumber := by
    rw [h]
    unfold nanosPerDay nanosPerSecond at ht ⊢
    omega
  rw [localDate, hday, Date.ofDayNumber_dayNumber hv]

/-- Whatever was read has a written form. -/
theorem writable_of_parse? {s : String} {m : Moment} (h : parse? s = some m) :
    m.writable = true := by
  obtain ⟨year, month, day, hour, minute, second, fraction, offset, hyear, hfraction, hoffset, h⟩ :=
    assemble?_of_parse? h
  obtain ⟨hvalid, ho, time, htime, hlocal⟩ := of_assemble? hfraction h
  rw [writable_iff, localDate_of_localNanos hvalid htime hlocal, ho]
  simp only
  omega

/-- The date and the time of day that a moment shows make the moment. -/
theorem assemble?_local {m : Moment} {time : Nat} (ht : (time : Int) = m.localTime) :
    assemble? m.localDate (time / 1000000000 / 3600) (time / 1000000000 / 60 % 60)
      (time / 1000000000 % 60) (time % 1000000000) m.offset = some m := by
  have hnumber : m.localDate.dayNumber = m.localNanos / nanosPerDay := Date.dayNumber_ofDayNumber _
  have hlt : time < 86400 * 1000000000 := by
    unfold localTime nanosPerDay nanosPerSecond at ht
    omega
  have hvalid : m.localDate.Valid := Date.valid_ofDayNumber _
  have h60 : time / 1000000000 % 60 ≠ 60 := by omega
  rw [assemble?, if_neg (by simp only [hvalid, not_true, false_or]; omega)]
  simp only [h60, decide_false, Bool.false_and, Bool.false_eq_true, if_false, hnumber]
  congr
  unfold localTime localNanos nanosPerDay nanosPerMinute nanosPerSecond at *
  omega

/-- What is written is read as the same moment. -/
theorem parse?_text {m : Moment} (h : m.writable = true) : parse? m.text = some m := by
  obtain ⟨hyear, hoffset⟩ := writable_iff.mp h
  have hvalid : m.localDate.Valid := Date.valid_ofDayNumber _
  obtain ⟨time, htime⟩ : ∃ time : Nat, (time : Int) = m.localTime :=
    ⟨m.localTime.toNat, by unfold localTime nanosPerDay nanosPerSecond; omega⟩
  obtain ⟨year, hy⟩ : ∃ year : Nat, (year : Int) = m.localDate.year :=
    ⟨m.localDate.year.toNat, by omega⟩
  have hmonth : m.localDate.month < 10 ^ 2 := by have := hvalid.2.1; omega
  have hday : m.localDate.day < 10 ^ 2 := by have := hvalid.day_le; omega
  have hsecond : time / 1000000000 / 3600 < 10 ^ 2 := by
    unfold localTime nanosPerDay nanosPerSecond at htime
    omega
  have hread := ofChars?_padded (by omega : year < 10 ^ 4) hmonth hday hsecond
    (by omega : time / 1000000000 / 60 % 60 < 10 ^ 2) (by omega : time / 1000000000 % 60 < 10 ^ 2)
    (readFraction?_chars (by omega : time % 1000000000 < 10 ^ 9) (ends_offsetChars m.offset))
    (readOffset?_chars hoffset)
  rw [parse?, text, String.toList_ofList, chars, ← hy, ← htime, List.append_assoc]
  simp only [Int.toNat_natCast]
  rw [hread, hy, assemble?_local htime]

end Timelines.Moment
