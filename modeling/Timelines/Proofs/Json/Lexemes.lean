import Mathlib.Data.List.TakeWhile
import Mathlib.Tactic.SplitIfs
import Timelines.Proofs.Except
import Timelines.Proofs.Json.Grammar

/-! The readers of the smallest parts of JSON text, against its grammar.

Each reader takes what the grammar has at the front of the text, and what it takes is in the
grammar. Of numbers the longest is taken: what follows must not go on with it (`Stops`). Strings are
read letter by letter, so that what was read before is told apart from the letters to come
(`joined`). -/
namespace Timelines.Json.Grammar

open Text

/-! ### White space -/

theorem spaces_skipSpace (cs : List Char) : Spaces cs (skipSpace cs) := by
  induction cs with
  | nil => exact .nothing []
  | cons c cs ih =>
    unfold skipSpace at ih ⊢
    cases hc : isSpace c with
    | true =>
      rw [List.dropWhile_cons_of_pos hc]
      exact .space hc ih
    | false =>
      rw [List.dropWhile_cons_of_neg (by rw [hc]; exact Bool.false_ne_true)]
      exact .nothing _

theorem Spaces.skipSpace_eq {cs rest : List Char} (h : Spaces cs rest) :
    skipSpace cs = skipSpace rest := by
  induction h with
  | nothing cs => rfl
  | space hc _ ih =>
    rw [← ih]
    exact List.dropWhile_cons_of_pos hc

theorem Spaces.length_le {cs rest : List Char} (h : Spaces cs rest) : rest.length ≤ cs.length := by
  induction h with
  | nothing cs => exact Nat.le_refl _
  | space _ _ ih => exact Nat.le_succ_of_le ih

theorem skipSpace_of_not_space {c : Char} (h : isSpace c = false) (cs : List Char) :
    skipSpace (c :: cs) = c :: cs :=
  List.dropWhile_cons_of_neg (by rw [h]; exact Bool.false_ne_true)

/-- White space before a mark is passed over. -/
theorem Spaces.skipSpace_mark {c : Char} {cs rest : List Char} (h : Spaces cs (c :: rest))
    (hc : isSpace c = false) : skipSpace cs = c :: rest := by
  rw [h.skipSpace_eq, skipSpace_of_not_space hc]

theorem spaces_of_skipSpace {cs rest : List Char} (h : skipSpace cs = rest) : Spaces cs rest :=
  h ▸ spaces_skipSpace cs

/-! ### Numbers -/

/-- Nothing that could go on with a run of digits comes next. -/
def NoDigit (cs : List Char) : Prop := ∀ c ∈ cs.head?, Decimal.isDigit c = false

/-- Nothing that could go on with a number comes next. -/
def Stops (cs : List Char) : Prop :=
  ∀ c ∈ cs.head?, Decimal.isDigit c = false ∧ c ≠ '.' ∧ c ≠ 'e' ∧ c ≠ 'E'

variable {cs ds rest : List Char}

theorem Stops.noDigit (h : Stops cs) : NoDigit cs := fun c hc => (h c hc).1

theorem takeWhile_of_noDigit (h : NoDigit cs) :
    cs.takeWhile Decimal.isDigit = [] ∧ cs.dropWhile Decimal.isDigit = cs := by
  cases cs with
  | nil => exact ⟨rfl, rfl⟩
  | cons c cs =>
    have hc : ¬Decimal.isDigit c = true := by
      rw [h c rfl]
      exact Bool.false_ne_true
    exact ⟨List.takeWhile_cons_of_neg hc, List.dropWhile_cons_of_neg hc⟩

theorem readDigits_of_digits (h : Digits cs ds rest) (hn : NoDigit rest) :
    readDigits cs = .ok (ds, rest) := by
  obtain ⟨rfl, hsome, hdigits⟩ := h
  obtain ⟨htake, hdrop⟩ := takeWhile_of_noDigit hn
  unfold readDigits
  rw [List.takeWhile_append_of_pos hdigits, List.dropWhile_append_of_pos hdigits, htake, hdrop,
    List.append_nil]
  cases ds with
  | nil => exact absurd rfl hsome
  | cons d ds => rfl

theorem digits_of_readDigits (h : readDigits cs = .ok (ds, rest)) : Digits cs ds rest := by
  unfold readDigits at h
  split at h
  · cases h
  · next hne =>
    cases h
    exact ⟨(List.takeWhile_append_dropWhile).symm, hne, fun c hc => List.mem_takeWhile_imp hc⟩

theorem Digits.length_lt (h : Digits cs ds rest) : rest.length < cs.length := by
  rw [h.split, List.length_append]
  have := List.length_pos_iff.mpr h.nonempty
  omega

theorem readWhole_of_whole (h : Whole cs ds rest) (hn : NoDigit rest) :
    readWhole cs = .ok (ds, rest) := by
  unfold readWhole
  rw [readDigits_of_digits h.run hn]
  simp only [bind, Except.bind]
  split
  · next more heq =>
    cases heq
    exact absurd (h.zero _ rfl) (List.cons_ne_nil _ _)
  · rfl

theorem whole_of_readWhole (h : readWhole cs = .ok (ds, rest)) : Whole cs ds rest := by
  obtain ⟨r, hd, h⟩ := exists_of_bind h
  split at h
  next => cases h
  next hzero =>
    cases h
    refine ⟨digits_of_readDigits hd, fun more hmore => ?_⟩
    cases more with
    | nil => rfl
    | cons c more => exact absurd (by rw [hmore]) (hzero c more rest)

/-- A run of digits starts with one. -/
theorem Digits.exists_head (h : Digits cs ds rest) :
    ∃ c more, cs = c :: more ∧ Decimal.isDigit c = true := by
  obtain ⟨rfl, hsome, hdigits⟩ := h
  obtain ⟨d, ds, rfl⟩ := List.exists_cons_of_ne_nil hsome
  exact ⟨d, ds ++ rest, rfl, hdigits d List.mem_cons_self⟩

theorem readFraction_of_fraction {fraction : Option (List Char)} (h : Fraction cs fraction rest)
    (hn : NoDigit rest) (hpoint : '.' ∉ rest.head?) : readFraction cs = .ok (fraction, rest) := by
  cases h with
  | absent =>
    unfold readFraction
    split
    · exact absurd rfl hpoint
    · rfl
  | present hds =>
    simp only [readFraction, readDigits_of_digits hds hn, bind, Except.bind]
    rfl

theorem fraction_of_readFraction {fraction : Option (List Char)}
    (h : readFraction cs = .ok (fraction, rest)) : Fraction cs fraction rest := by
  unfold readFraction at h
  split at h
  next cs =>
    obtain ⟨r, hd, h⟩ := exists_of_bind h
    cases h
    exact .present (digits_of_readDigits hd)
  next =>
    cases h
    exact .absent _

theorem exists_sign (cs : List Char) : ∃ negative signed, Sign cs negative signed := by
  by_cases hplus : '+' ∈ cs.head?
  · obtain ⟨cs, rfl⟩ := List.head?_eq_some_iff.mp hplus
    exact ⟨_, _, .plus cs⟩
  by_cases hminus : '-' ∈ cs.head?
  · obtain ⟨cs, rfl⟩ := List.head?_eq_some_iff.mp hminus
    exact ⟨_, _, .minus cs⟩
  exact ⟨_, _, .absent hplus hminus⟩

theorem readPower_of_sign {mark : Char} {signed : List Char} {negative : Bool}
    (hmark : mark = 'e' ∨ mark = 'E') (h : Sign cs negative signed) :
    readPower (mark :: cs) =
      (readDigits signed).map fun r => (some (integerOf negative r.1), r.2) := by
  have hread (negative : Bool) (signed : List Char) :
      (do
        let r ← readDigits signed
        return (some (integerOf negative r.1), r.2)) =
      (readDigits signed).map fun r => (some (integerOf negative r.1), r.2) := by
    cases readDigits signed <;> rfl
  simp only [readPower, if_pos hmark]
  cases h with
  | absent hplus hminus =>
    split
    next => exact absurd rfl hplus
    next => exact absurd rfl hminus
    next => exact hread false cs
  | plus => exact hread false signed
  | minus => exact hread true signed

theorem readPower_of_power {power : Option Int} (h : Power cs power rest) (hn : Stops rest) :
    readPower cs = .ok (power, rest) := by
  cases h with
  | absent =>
    cases cs with
    | nil => rfl
    | cons c cs =>
      obtain ⟨-, -, he, hE⟩ := hn c rfl
      exact if_neg (by rintro (rfl | rfl) <;> contradiction)
  | present hmark hsign hds =>
    rw [readPower_of_sign hmark hsign, readDigits_of_digits hds hn.noDigit]
    rfl

theorem power_of_readPower {power : Option Int} (h : readPower cs = .ok (power, rest)) :
    Power cs power rest := by
  cases cs with
  | nil =>
    cases h
    exact .absent []
  | cons mark cs =>
    by_cases hmark : mark = 'e' ∨ mark = 'E'
    · obtain ⟨negative, signed, hsign⟩ := exists_sign cs
      rw [readPower_of_sign hmark hsign] at h
      cases hd : readDigits signed with
      | error b =>
        rw [hd] at h
        cases h
      | ok r =>
        rw [hd] at h
        cases h
        exact .present hmark hsign (digits_of_readDigits hd)
    · simp only [readPower, if_neg hmark] at h
      cases h
      exact .absent _

/-- Neither a fraction nor a power begins with a digit, and a power begins with no point. -/
theorem Power.noDigit {power : Option Int} (h : Power cs power rest) (hn : Stops rest) :
    NoDigit cs ∧ '.' ∉ cs.head? := by
  cases h with
  | absent =>
    refine ⟨hn.noDigit, fun hpoint => ?_⟩
    exact (hn '.' hpoint).2.1 rfl
  | present hmark _ _ =>
    rcases hmark with rfl | rfl
    · exact ⟨by rintro c ⟨⟩; rfl, by rintro ⟨⟩⟩
    · exact ⟨by rintro c ⟨⟩; rfl, by rintro ⟨⟩⟩

theorem Fraction.noDigit {fraction : Option (List Char)} (h : Fraction cs fraction rest)
    (hn : NoDigit rest) : NoDigit cs := by
  cases h with
  | absent => exact hn
  | present _ =>
    rintro c ⟨⟩
    rfl

/-- The longest number at the front of a text is read. -/
theorem readNumber_of_numeral {negative : Bool} {n : Number} (h : Numeral negative cs n rest)
    (hn : Stops rest) : readNumber negative cs = .ok (n, rest) := by
  cases h with
  | integer hwhole =>
    have hfraction := readFraction_of_fraction (.absent rest) hn.noDigit
      fun hpoint => (hn '.' hpoint).2.1 rfl
    have hpower := readPower_of_power (.absent rest) hn
    simp only [readNumber, readWhole_of_whole hwhole hn.noDigit, hfraction, hpower, bind,
      Except.bind]
    rfl
  | real hwhole hfraction hpower hsome =>
    obtain ⟨hdigit, hpoint⟩ := hpower.noDigit hn
    simp only [readNumber, readWhole_of_whole hwhole (hfraction.noDigit hdigit),
      readFraction_of_fraction hfraction hdigit hpoint, readPower_of_power hpower hn, bind,
      Except.bind]
    split
    · cases hsome
    · rfl

theorem numeral_of_readNumber {negative : Bool} {n : Number}
    (h : readNumber negative cs = .ok (n, rest)) : Numeral negative cs n rest := by
  obtain ⟨⟨ds, behind⟩, hw, h⟩ := exists_of_bind h
  obtain ⟨⟨fraction, fractioned⟩, hf, h⟩ := exists_of_bind h
  obtain ⟨⟨power, rest'⟩, hp, h⟩ := exists_of_bind h
  have hwhole := whole_of_readWhole hw
  have hfraction := fraction_of_readFraction hf
  have hpower := power_of_readPower hp
  simp only at h
  split at h
  next =>
    cases h
    cases hfraction
    cases hpower
    exact .integer hwhole
  next hsome =>
    cases h
    refine .real hwhole hfraction hpower ?_
    cases fraction with
    | some ds => rfl
    | none =>
      cases power with
      | some p => rfl
      | none => exact (hsome rfl rfl).elim

/-! ### Strings -/

theorem utf8Size_of_hex {c : Char} {n : Nat} (h : Hex.value? c = some n) : c.utf8Size = 1 := by
  have hlow : c.toNat ≤ 102 := by
    simp only [Hex.value?] at h
    split_ifs at h <;> omega
  exact Char.utf8Size_eq_one_iff.mpr (UInt32.le_iff_toNat_le.mpr (by
    show c.toNat ≤ 127
    omega))

/-- Hexadecimal digits take a byte each. -/
theorem bytes_of_hex {acc n size : Nat} (h : Hex.read? acc ds = some n) :
    ds.foldl (fun size c => size + c.utf8Size) size = size + ds.length := by
  induction ds generalizing acc size with
  | nil => rfl
  | cons c ds ih =>
    obtain ⟨d, hd, h⟩ := Option.bind_eq_some_iff.mp h
    rw [List.foldl_cons, ih h, utf8Size_of_hex hd, List.length_cons]
    omega

theorem readUnit_iff {n : Nat} : readUnit cs = .ok (n, rest) ↔ Unit cs n rest := by
  constructor
  · intro h
    unfold readUnit at h
    split at h
    next hbytes =>
      split at h
      next hread =>
        cases h
        refine ⟨cs.take 4, ?_, (List.take_append_drop 4 cs).symm, hread⟩
        unfold fourBytesLeft at hbytes
        rw [bytes_of_hex hread, Nat.zero_add] at hbytes
        exact Nat.le_antisymm (List.length_take_le 4 cs) (of_decide_eq_true hbytes)
      next => cases h
    next => cases h
  · rintro ⟨ds, hlen, rfl, hread⟩
    have htake : (ds ++ rest).take 4 = ds := by rw [← hlen, List.take_left]
    have hdrop : (ds ++ rest).drop 4 = rest := by rw [← hlen, List.drop_left]
    have hbytes : fourBytesLeft (ds ++ rest) = true := by
      unfold fourBytesLeft
      rw [htake, bytes_of_hex hread, hlen]
      rfl
    rw [readUnit, if_pos hbytes, htake, hread, hdrop]

theorem readPair_of_lone (first : Nat) (h : Lone cs) : readPair first cs = .ok (.half, cs) := by
  cases h with
  | plain cs hc =>
    unfold readPair
    split <;> simp_all
  | escape cs hc =>
    unfold readPair
    split <;> simp_all
  | unit hunit hlow =>
    simp only [readPair, readUnit_iff.mpr hunit, bind, Except.bind]
    rw [if_neg hlow]
    rfl

theorem readPair_of_low {first low : Nat} (hunit : Unit cs low rest) (hlow : Low low) :
    readPair first ('\\' :: 'u' :: cs) = .ok (.char (paired first low), rest) := by
  simp only [readPair, readUnit_iff.mpr hunit, bind, Except.bind]
  rw [if_pos hlow]
  rfl

/-- Behind the first half comes the second, or none. -/
theorem of_readPair {first : Nat} {piece : Piece} (h : readPair first cs = .ok (piece, rest)) :
    (∃ cs' low, cs = '\\' :: 'u' :: cs' ∧ Unit cs' low rest ∧ Low low ∧
      piece = .char (paired first low)) ∨ (piece = .half ∧ rest = cs ∧ Lone cs) := by
  unfold readPair at h
  split at h
  next => cases h
  next => cases h
  next cs =>
    obtain ⟨⟨low, behind⟩, hunit, h⟩ := exists_of_bind h
    have hunit := readUnit_iff.mp hunit
    simp only at h
    split at h
    next hlow =>
      cases h
      exact .inl ⟨cs, low, rfl, hunit, hlow, rfl⟩
    next hlow =>
      cases h
      exact .inr ⟨rfl, rfl, .unit hunit hlow⟩
  next hnil hslash hunit =>
    cases h
    refine .inr ⟨rfl, rfl, ?_⟩
    cases cs with
    | nil => exact (hnil rfl).elim
    | cons c cs =>
      by_cases hc : c = '\\'
      · subst hc
        cases cs with
        | nil => exact (hslash rfl).elim
        | cons c cs => exact .escape cs fun hu => hunit cs (by rw [hu])
      · exact .plain cs hc

theorem readEscape_of_escape {piece : Piece} (h : Escape cs piece rest) :
    readEscape cs = .ok (piece, rest) := by
  cases h with
  | short rest hshort => cases hshort <;> rfl
  | unit hunit hhigh hlow =>
    simp only [readEscape, readUnit_iff.mpr hunit, bind, Except.bind]
    rw [if_neg hlow, if_neg hhigh]
    rfl
  | pair hunit hnext hhigh hlow =>
    simp only [readEscape, readUnit_iff.mpr hunit, bind, Except.bind]
    rw [if_neg (by unfold High at hhigh; omega), if_pos hhigh, readPair_of_low hnext hlow]
  | low hunit hlow =>
    simp only [readEscape, readUnit_iff.mpr hunit, bind, Except.bind]
    rw [if_pos hlow]
    rfl
  | high hunit hhigh hlone =>
    simp only [readEscape, readUnit_iff.mpr hunit, bind, Except.bind]
    rw [if_neg (by unfold High at hhigh; omega), if_pos hhigh, readPair_of_lone _ hlone]

theorem escape_of_readEscape {piece : Piece} (h : readEscape cs = .ok (piece, rest)) :
    Escape cs piece rest := by
  unfold readEscape at h
  split at h
  next => cases h
  next => cases h; exact .short rest .quote
  next => cases h; exact .short rest .backslash
  next => cases h; exact .short rest .slash
  next => cases h; exact .short rest .backspace
  next => cases h; exact .short rest .feed
  next => cases h; exact .short rest .line
  next => cases h; exact .short rest .carriage
  next => cases h; exact .short rest .tab
  next cs =>
    obtain ⟨⟨n, behind⟩, hunit, h⟩ := exists_of_bind h
    have hunit := readUnit_iff.mp hunit
    simp only at h
    split at h
    next hlow =>
      cases h
      exact .low hunit hlow
    next hlow =>
      split at h
      next hhigh =>
        rcases of_readPair h with ⟨cs', low, rfl, hnext, hlow', rfl⟩ | ⟨rfl, rfl, hlone⟩
        · exact .pair hunit hnext hhigh hlow'
        · exact .high hunit hhigh hlone
      next hhigh =>
        cases h
        exact .unit hunit hhigh hlow
  next => cases h

/-- A string whose front was read before, in reverse. -/
def joined (seen t : Json.Text) : Except Fault String :=
  seen.bind fun seen => t.map fun more => String.ofList (seen.reverse ++ more)

theorem joined_addTo (piece : Piece) (seen t : Json.Text) :
    joined (piece.addTo seen) t = joined seen (before piece t) := by
  cases piece with
  | char c =>
    cases seen <;> cases t <;> simp [joined, before, Piece.addTo, Except.map, Except.bind]
  | half => cases seen <;> cases t <;> rfl

theorem Unit.length_lt {n : Nat} (h : Unit cs n rest) : rest.length < cs.length := by
  obtain ⟨ds, hlen, rfl, -⟩ := h
  rw [List.length_append]
  omega

theorem Escape.length_lt {piece : Piece} (h : Escape cs piece rest) : rest.length < cs.length := by
  cases h with
  | short rest _ => exact Nat.lt_succ_self _
  | unit hunit _ _ => exact Nat.lt_succ_of_lt hunit.length_lt
  | pair hunit hnext _ _ =>
    have hfirst := hunit.length_lt
    have hsecond := hnext.length_lt
    simp only [List.length_cons] at hfirst ⊢
    omega
  | low hunit _ => exact Nat.lt_succ_of_lt hunit.length_lt
  | high hunit _ _ => exact Nat.lt_succ_of_lt hunit.length_lt

theorem Letters.length_lt {t : Json.Text} (h : Letters cs t rest) : rest.length < cs.length := by
  induction h with
  | close rest => exact Nat.lt_succ_self _
  | plain _ _ _ _ ih => exact Nat.lt_succ_of_lt ih
  | escape hescape _ ih => exact Nat.lt_succ_of_lt (Nat.lt_trans ih hescape.length_lt)

/-- Letters are read up to the quote, after what was read before them. -/
theorem readChars_of_letters {t : Json.Text} (h : Letters cs t rest) (seen : Json.Text)
    {fuel : Nat} (hf : cs.length ≤ fuel) :
    readChars fuel seen cs = .ok (joined seen t, rest) := by
  induction h generalizing fuel seen with
  | close rest =>
    obtain ⟨fuel, rfl⟩ := Nat.exists_eq_add_one.mpr (Nat.lt_of_lt_of_le (Nat.succ_pos _) hf)
    cases seen <;> simp [readChars, joined, Except.map, Except.bind]
  | @plain c cs rest t hquote hslash hcontrol _ ih =>
    obtain ⟨fuel, rfl⟩ := Nat.exists_eq_add_one.mpr (Nat.lt_of_lt_of_le (Nat.succ_pos _) hf)
    rw [← joined_addTo, readChars, if_neg hquote, if_neg hslash, if_neg hcontrol]
    exact ih _ (Nat.le_of_succ_le_succ hf)
  | @escape cs cs' rest piece t hescape _ ih =>
    obtain ⟨fuel, rfl⟩ := Nat.exists_eq_add_one.mpr (Nat.lt_of_lt_of_le (Nat.succ_pos _) hf)
    have hlen : cs'.length ≤ fuel :=
      Nat.le_trans (Nat.le_of_lt hescape.length_lt) (Nat.le_of_succ_le_succ hf)
    rw [← joined_addTo, readChars, if_neg (by decide), if_pos rfl,
      readEscape_of_escape hescape]
    exact ih _ hlen

theorem letters_of_readChars {fuel : Nat} {seen : Json.Text} {s : Except Fault String}
    (h : readChars fuel seen cs = .ok (s, rest)) :
    ∃ t, Letters cs t rest ∧ s = joined seen t := by
  induction fuel generalizing cs seen with
  | zero => cases h
  | succ fuel ih =>
    cases cs with
    | nil => cases h
    | cons c cs =>
      rw [readChars] at h
      split_ifs at h with hquote hslash hcontrol
      · subst hquote
        cases h
        refine ⟨.ok [], .close _, ?_⟩
        cases seen <;> simp [joined, Except.map, Except.bind]
      · subst hslash
        split at h
        next piece behind hescape =>
          obtain ⟨t, ht, rfl⟩ := ih h
          exact ⟨_, .escape (escape_of_readEscape hescape) ht, joined_addTo piece seen t⟩
        next => cases h
      · obtain ⟨t, ht, rfl⟩ := ih h
        exact ⟨_, .plain hquote hslash hcontrol ht, joined_addTo (.char c) seen t⟩

theorem joined_nil (t : Json.Text) : joined (.ok []) t = spelt t := by
  cases t <;> rfl

theorem readQuoted_of_letters {t : Json.Text} (h : Letters cs t rest) {fuel : Nat}
    (hf : cs.length ≤ fuel) : readQuoted fuel cs = .ok (spelt t, rest) := by
  rw [readQuoted, readChars_of_letters h _ hf, joined_nil]

theorem letters_of_readQuoted {fuel : Nat} {s : Except Fault String}
    (h : readQuoted fuel cs = .ok (s, rest)) : ∃ t, Letters cs t rest ∧ s = spelt t := by
  obtain ⟨t, ht, hs⟩ := letters_of_readChars h
  exact ⟨t, ht, hs.trans (joined_nil t)⟩

end Timelines.Json.Grammar
