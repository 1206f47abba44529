import Timelines.Proofs.Json.Lexemes

/-! The texts of a document are those that are read as it.

What the grammar writes is read (`readValue_of_writes`, by the derivation), and what is read without
a break is written so (`sound`, by the fuel of the readers, which call each other). A text is read
as the document it spells (`decode_of_spells`), and spells one if it is read (`spells_of_decode`).
-/
namespace Timelines.Json.Grammar
open Text

variable {cs rest : List Char} {d : Doc}

/-! ### What stands at the front of a text -/

theorem Numeral.exists_head {negative : Bool} {n : Number} (h : Numeral negative cs n rest) :
    ∃ c more, cs = c :: more ∧ Decimal.isDigit c = true := by
  cases h with
  | integer hwhole => exact hwhole.run.exists_head
  | real hwhole _ _ _ => exact hwhole.run.exists_head

theorem not_space_of_isDigit {c : Char} (h : Decimal.isDigit c = true) : isSpace c = false := by
  cases hs : isSpace c with
  | false => rfl
  | true =>
    simp only [isSpace, Bool.or_eq_true, beq_iff_eq] at hs
    rcases hs with ((rfl | rfl) | rfl) | rfl <;> cases h

/-- A value starts with no white space and no closing bracket. -/
theorem Writes.exists_head (h : Writes cs d rest) :
    ∃ c more, cs = c :: more ∧ isSpace c = false ∧ c ≠ ']' := by
  cases h with
  | number hn =>
    obtain ⟨c, more, rfl, hc⟩ := hn.exists_head
    refine ⟨c, more, rfl, not_space_of_isDigit hc, ?_⟩
    rintro rfl
    cases hc
  | _ => exact ⟨_, _, rfl, rfl, by decide⟩

theorem Spaced.exists_head (h : Spaced cs d rest) :
    ∃ c more, skipSpace cs = c :: more ∧ c ≠ ']' := by
  obtain ⟨hfront, hd, -⟩ := h
  obtain ⟨c, more, rfl, hspace, hc⟩ := hd.exists_head
  exact ⟨c, more, hfront.skipSpace_mark hspace, hc⟩

theorem Items.exists_head {ds : List Doc} (h : Items cs ds rest) :
    ∃ c more, skipSpace cs = c :: more ∧ c ≠ ']' := by
  cases h with
  | last hd => exact hd.exists_head
  | more hd _ => exact hd.exists_head

theorem Members.exists_head {ms : List Entry} (h : Members cs ms rest) :
    ∃ more, skipSpace cs = '"' :: more := by
  cases h with
  | last hm | more hm _ =>
    obtain ⟨hs, -, -, -⟩ := hm
    exact ⟨_, hs.skipSpace_mark rfl⟩

/-- A mark stops a number, and so does white space before it. -/
theorem Spaces.stops {behind : List Char} (h : Spaces cs behind) (hs : Stops behind) :
    Stops cs := by
  cases h with
  | nothing => exact hs
  | @space c _ _ hc _ =>
    rintro _ ⟨⟩
    simp only [isSpace, Bool.or_eq_true, beq_iff_eq] at hc
    rcases hc with ((rfl | rfl) | rfl) | rfl <;> decide

theorem stops_nil : Stops [] := nofun

theorem stops_mark {c : Char} (hc : c = ',' ∨ c = ']' ∨ c = '\x7d') (cs : List Char) :
    Stops (c :: cs) := by
  rintro _ ⟨⟩
  rcases hc with rfl | rfl | rfl <;> decide

/-! ### How long a text is -/

theorem Numeral.length_lt {negative : Bool} {n : Number} (h : Numeral negative cs n rest) :
    rest.length < cs.length := by
  have hfraction {cs rest : List Char} {fraction : Option (List Char)}
      (h : Fraction cs fraction rest) : rest.length ≤ cs.length := by
    cases h with
    | absent => exact Nat.le_refl _
    | present hds => exact Nat.le_succ_of_le (Nat.le_of_lt hds.length_lt)
  have hsign {cs rest : List Char} {negative : Bool} (h : Sign cs negative rest) :
      rest.length ≤ cs.length := by
    cases h with
    | absent _ _ => exact Nat.le_refl _
    | plus | minus => exact Nat.le_succ _
  have hpower {cs rest : List Char} {power : Option Int} (h : Power cs power rest) :
      rest.length ≤ cs.length := by
    cases h with
    | absent => exact Nat.le_refl _
    | present _ hs hds =>
      exact Nat.le_succ_of_le (Nat.le_trans (Nat.le_of_lt hds.length_lt) (hsign hs))
  cases h with
  | integer hwhole => exact hwhole.run.length_lt
  | real hwhole hf hp _ =>
    exact Nat.lt_of_le_of_lt (Nat.le_trans (hpower hp) (hfraction hf)) hwhole.run.length_lt

mutual

theorem Writes.length_lt : {cs : List Char} → {d : Doc} → {rest : List Char} →
    Writes cs d rest → rest.length < cs.length
  | _, _, _, .null _ | _, _, _, .truth _ | _, _, _, .falsity _ => by
    simp only [List.length_cons]
    omega
  | _, _, _, .number hn => hn.length_lt
  | _, _, _, .minus hn => Nat.lt_succ_of_lt hn.length_lt
  | _, _, _, .string ht => Nat.lt_succ_of_lt ht.length_lt
  | _, _, _, .emptyArray hs | _, _, _, .emptyObject hs =>
    Nat.lt_succ_of_lt (Nat.lt_of_succ_le hs.length_le)
  | _, _, _, .array hi => Nat.lt_succ_of_lt hi.length_lt
  | _, _, _, .object hm => Nat.lt_succ_of_lt hm.length_lt

theorem Spaced.length_lt : {cs : List Char} → {d : Doc} → {rest : List Char} →
    Spaced cs d rest → rest.length < cs.length
  | _, _, _, .mk hfront hd hbehind =>
    Nat.lt_of_le_of_lt hbehind.length_le (Nat.lt_of_lt_of_le hd.length_lt hfront.length_le)

theorem Items.length_lt : {cs : List Char} → {ds : List Doc} → {rest : List Char} →
    Items cs ds rest → rest.length < cs.length
  | _, _, _, .last hd => Nat.lt_of_succ_lt hd.length_lt
  | _, _, _, .more hd hi => Nat.lt_trans hi.length_lt (Nat.lt_of_succ_lt hd.length_lt)

theorem Member.length_lt : {cs : List Char} → {m : Entry} →
    {rest : List Char} → Member cs m rest → rest.length < cs.length
  | _, _, _, .mk hs ht hs' hd => by
    have hname := hs.length_le
    have hbehind := ht.length_lt
    have hvalue := hs'.length_le
    have hrest := hd.length_lt
    simp only [List.length_cons] at hname hvalue
    omega

theorem Members.length_lt : {cs : List Char} → {ms : List Entry} →
    {rest : List Char} → Members cs ms rest → rest.length < cs.length
  | _, _, _, .last hm => Nat.lt_of_succ_lt hm.length_lt
  | _, _, _, .more hm hms => Nat.lt_trans hms.length_lt (Nat.lt_of_succ_lt hm.length_lt)

end

/-! ### What is written is read -/

theorem skipSpace_skipSpace (cs : List Char) : skipSpace (skipSpace cs) = skipSpace cs :=
  ((spaces_skipSpace cs).skipSpace_eq).symm

theorem readValue_skipSpace (fuel : Nat) (cs : List Char) :
    readValue fuel (skipSpace cs) = readValue fuel cs := by
  cases fuel with
  | zero => rfl
  | succ fuel => rw [readValue, readValue, skipSpace_skipSpace]

theorem readRest_skipSpace (fuel : Nat) (cs : List Char) :
    readRest fuel (skipSpace cs) = readRest fuel cs := by
  cases fuel with
  | zero => rfl
  | succ fuel => rw [readRest, readRest, readValue_skipSpace]

theorem readMembers_skipSpace (fuel : Nat) (cs : List Char) :
    readMembers fuel (skipSpace cs) = readMembers fuel cs := by
  cases fuel with
  | zero => rfl
  | succ fuel => rw [readMembers, readMembers, skipSpace_skipSpace]

/-- What is written has no break in it. -/
theorem Writes.breaks_eq (h : Writes cs d rest) : d.breaks = none := by
  cases h <;> rfl

section Steps
variable {fuel : Nat} {behind : List Char}

theorem readValue_number {negative : Bool} {n : Number} (hn : Numeral negative cs n rest)
    (hstops : Stops rest) :
    readValue (fuel + 1) (if negative then '-' :: cs else cs) = (.number n, rest) := by
  have hread := readNumber_of_numeral hn hstops
  cases negative with
  | true =>
    simp only [readValue, if_true, skipSpace_of_not_space (c := '-') rfl, hread, Parsed.of]
  | false =>
    obtain ⟨c, more, rfl, hc⟩ := hn.exists_head
    have hskip := skipSpace_of_not_space (not_space_of_isDigit hc) more
    simp only [readValue, Bool.false_eq_true, if_false, hskip]
    split
    all_goals first | cases hc | skip
    rw [if_pos hc, hread, Parsed.of]

theorem readValue_string {t : Json.Text} (ht : Letters cs t rest) (hf : cs.length ≤ fuel) :
    readValue (fuel + 1) ('"' :: cs) = (.string (spelt t), rest) := by
  have hskip : skipSpace ('"' :: cs) = '"' :: cs := skipSpace_of_not_space rfl cs
  simp only [readValue, hskip, readQuoted_of_letters ht hf, Parsed.of]

theorem readValue_array {ds : List Doc} (hhead : ∃ c more, skipSpace cs = c :: more ∧ c ≠ ']')
    (hread : readRest fuel cs = (ds, none, rest)) :
    readValue (fuel + 1) ('[' :: cs) = (.array ds none, rest) := by
  obtain ⟨c, more, hc, hclose⟩ := hhead
  have hskip : skipSpace ('[' :: cs) = '[' :: cs := skipSpace_of_not_space rfl cs
  rw [← readRest_skipSpace, hc] at hread
  simp only [readValue, hskip, hc]
  split
  next heq => cases heq
  next heq =>
    cases heq
    exact absurd rfl hclose
  next => rw [hread]

theorem readValue_object {ms : List Entry}
    (hhead : ∃ more, skipSpace cs = '"' :: more)
    (hread : readMembers fuel cs = (ms, none, rest)) :
    readValue (fuel + 1) ('\x7b' :: cs) = (.object ms none, rest) := by
  obtain ⟨more, hc⟩ := hhead
  have hskip : skipSpace ('\x7b' :: cs) = '\x7b' :: cs := skipSpace_of_not_space rfl cs
  rw [← readMembers_skipSpace, hc] at hread
  simp only [readValue, hskip, hc]
  split
  next heq => cases heq
  next => rw [hread]

theorem readRest_last (hd : readValue fuel cs = (d, behind)) (hbreaks : d.breaks = none)
    (hclose : skipSpace behind = ']' :: rest) : readRest (fuel + 1) cs = ([d], none, rest) := by
  simp only [readRest, hd, hbreaks, hclose]

theorem readRest_more {ds : List Doc} {cs' : List Char} (hd : readValue fuel cs = (d, behind))
    (hbreaks : d.breaks = none) (hcomma : skipSpace behind = ',' :: cs')
    (hmore : readRest fuel cs' = (ds, none, rest)) :
    readRest (fuel + 1) cs = (d :: ds, none, rest) := by
  simp only [readRest, hd, hbreaks, hcomma, hmore]

/-- A member is read up to the white space behind its value. -/
structure ReadsMember (fuel : Nat) (cs : List Char) (m : Entry)
    (behind : List Char) : Prop where
  parts : ∃ name colon value, skipSpace cs = '"' :: name ∧
    readQuoted fuel name = .ok (m.1, colon) ∧ skipSpace colon = ':' :: value ∧
    readValue fuel value = (m.2, behind)
  unbroken : m.2.breaks = none

theorem readMembers_last {m : Entry} (hm : ReadsMember fuel cs m behind)
    (hclose : skipSpace behind = '\x7d' :: rest) :
    readMembers (fuel + 1) cs = ([m], none, rest) := by
  obtain ⟨⟨name, colon, value, hquote, hname, hcolon, hvalue⟩, hbreaks⟩ := hm
  simp only [readMembers, hquote, hname, hcolon, hvalue, hbreaks, hclose]

theorem readMembers_more {m : Entry} {ms : List Entry}
    {cs' : List Char} (hm : ReadsMember fuel cs m behind)
    (hcomma : skipSpace behind = ',' :: cs') (hmore : readMembers fuel cs' = (ms, none, rest)) :
    readMembers (fuel + 1) cs = (m :: ms, none, rest) := by
  obtain ⟨⟨name, colon, value, hquote, hname, hcolon, hvalue⟩, hbreaks⟩ := hm
  simp only [readMembers, hquote, hname, hcolon, hvalue, hbreaks, hcomma, hmore]

end Steps

mutual

theorem readValue_of_writes : {cs : List Char} → {d : Doc} → {rest : List Char} →
    Writes cs d rest → Stops rest → {fuel : Nat} → 2 * cs.length < fuel →
    readValue fuel cs = (d, rest)
  | _, _, _, .null _, _, fuel + 1, _ => rfl
  | _, _, _, .truth _, _, fuel + 1, _ => rfl
  | _, _, _, .falsity _, _, fuel + 1, _ => rfl
  | _, _, _, .number hn, hstops, fuel + 1, _ => readValue_number hn hstops
  | _, _, _, .minus hn, hstops, fuel + 1, _ => readValue_number hn hstops
  | _, _, _, .string ht, _, fuel + 1, hf => readValue_string ht (by
    rw [List.length_cons] at hf
    omega)
  | _, _, _, .emptyArray hs, _, fuel + 1, _ => by
    simp only [readValue, skipSpace_of_not_space (c := '[') rfl, hs.skipSpace_mark rfl]
  | _, _, _, .emptyObject hs, _, fuel + 1, _ => by
    simp only [readValue, skipSpace_of_not_space (c := '\x7b') rfl, hs.skipSpace_mark rfl]
  | _, _, _, .array hi, _, fuel + 1, hf =>
    readValue_array hi.exists_head (readRest_of_items hi (by
      rw [List.length_cons] at hf
      omega))
  | _, _, _, .object hm, _, fuel + 1, hf =>
    readValue_object hm.exists_head (readMembers_of_members hm (by
      rw [List.length_cons] at hf
      omega))

/-- What is written with white space around it is read up to the white space behind it. -/
theorem readValue_of_spaced : {cs : List Char} → {d : Doc} → {rest : List Char} →
    Spaced cs d rest → Stops rest → {fuel : Nat} → 2 * cs.length < fuel →
    ∃ behind, readValue fuel cs = (d, behind) ∧ Spaces behind rest ∧ d.breaks = none
  | _, d, _, .mk hfront hd hbehind, hstops, fuel, hf => by
    have hlen := hfront.length_le
    have hread : readValue fuel _ = (d, _) :=
      readValue_of_writes hd (hbehind.stops hstops) (by omega)
    rw [← readValue_skipSpace, ← hfront.skipSpace_eq, readValue_skipSpace] at hread
    exact ⟨_, hread, hbehind, hd.breaks_eq⟩

theorem readRest_of_items : {cs : List Char} → {ds : List Doc} → {rest : List Char} →
    Items cs ds rest → {fuel : Nat} → 2 * cs.length + 1 < fuel →
    readRest fuel cs = (ds, none, rest)
  | _, _, _, .last hd, fuel + 1, hf => by
    obtain ⟨behind, hread, hbehind, hbreaks⟩ :=
      readValue_of_spaced hd (stops_mark (.inr (.inl rfl)) _) (Nat.lt_of_succ_lt_succ hf)
    exact readRest_last hread hbreaks (hbehind.skipSpace_mark rfl)
  | _, _ :: ds, rest, .more hd hi, fuel + 1, hf => by
    have hlen := hd.length_lt
    rw [List.length_cons] at hlen
    obtain ⟨behind, hread, hbehind, hbreaks⟩ :=
      readValue_of_spaced hd (stops_mark (.inl rfl) _) (Nat.lt_of_succ_lt_succ hf)
    have hmore : readRest fuel _ = (ds, none, rest) := readRest_of_items hi (by omega)
    exact readRest_more hread hbreaks (hbehind.skipSpace_mark rfl) hmore

theorem readsMember_of_member : {cs : List Char} → {m : Entry} →
    {rest : List Char} → Member cs m rest → Stops rest → {fuel : Nat} → 2 * cs.length < fuel →
    ∃ behind, ReadsMember fuel cs m behind ∧ Spaces behind rest
  | _, (_, d), _, .mk hs ht hs' hd, hstops, fuel, hf => by
    have hname := hs.length_le
    have hbehind := ht.length_lt
    have hvalue := hs'.length_le
    rw [List.length_cons] at hname hvalue
    obtain ⟨behind, hread, hspaces, hbreaks⟩ : ∃ behind, readValue fuel _ = (d, behind) ∧ _ :=
      readValue_of_spaced hd hstops (by omega)
    exact ⟨behind, ⟨⟨_, _, _, hs.skipSpace_mark rfl, readQuoted_of_letters ht (by omega),
      hs'.skipSpace_mark rfl, hread⟩, hbreaks⟩, hspaces⟩

theorem readMembers_of_members : {cs : List Char} → {ms : List Entry} →
    {rest : List Char} → Members cs ms rest → {fuel : Nat} → 2 * cs.length + 1 < fuel →
    readMembers fuel cs = (ms, none, rest)
  | _, _, _, .last hm, fuel + 1, hf => by
    obtain ⟨behind, hread, hspaces⟩ :=
      readsMember_of_member hm (stops_mark (.inr (.inr rfl)) _) (Nat.lt_of_succ_lt_succ hf)
    exact readMembers_last hread (hspaces.skipSpace_mark rfl)
  | _, _ :: ms, rest, .more hm hms, fuel + 1, hf => by
    have hlen := hm.length_lt
    rw [List.length_cons] at hlen
    obtain ⟨behind, hread, hspaces⟩ :=
      readsMember_of_member hm (stops_mark (.inl rfl) _) (Nat.lt_of_succ_lt_succ hf)
    have hmore : readMembers fuel _ = (ms, none, rest) := readMembers_of_members hms (by omega)
    exact readMembers_more hread (hspaces.skipSpace_mark rfl) hmore

end

/-! ### What is read is written -/

/-- What is read as one of the smallest parts was so without a break. -/
theorem of_parsed {α : Type} {make : α → Doc} {x : Except Break (α × List Char)}
    (h : Parsed.of make x = (d, rest)) (hbreaks : d.breaks = none) :
    ∃ a, x = .ok (a, rest) ∧ d = make a := by
  cases x with
  | error b =>
    cases h
    cases hbreaks
  | ok r =>
    cases h
    exact ⟨_, rfl, rfl⟩

theorem split_of_readWord {word : List Char} (h : readWord word cs = .ok rest) :
    cs = word ++ rest := by
  induction word generalizing cs with
  | nil =>
    cases h
    rfl
  | cons w word ih =>
    cases cs with
    | nil => cases h
    | cons c cs =>
      rw [readWord] at h
      split at h
      next hc =>
        rw [hc, ih h]
        rfl
      next => cases h

theorem split_of_readNamed {named : Doc} {word : String} (h : readNamed named word cs = (d, rest))
    (hbreaks : d.breaks = none) : d = named ∧ cs = word.toList ++ rest := by
  obtain ⟨_, hword, rfl⟩ := of_parsed h hbreaks
  cases hw : readWord word.toList cs with
  | error b =>
    rw [hw] at hword
    cases hword
  | ok rest' =>
    rw [hw] at hword
    cases hword
    exact ⟨rfl, split_of_readWord hw⟩

/-- What the three readers give without a break is written so. -/
structure Sound (fuel : Nat) : Prop where
  value {cs rest : List Char} {d : Doc} (h : readValue fuel cs = (d, rest))
    (hbreaks : d.breaks = none) : ∃ front, Spaces cs front ∧ Writes front d rest
  items {cs rest : List Char} {ds : List Doc} (h : readRest fuel cs = (ds, none, rest)) :
    Items cs ds rest
  members {cs rest : List Char} {ms : List Entry}
    (h : readMembers fuel cs = (ms, none, rest)) : Members cs ms rest

theorem Sound.writes {fuel : Nat} (ih : Sound fuel) (h : readValue (fuel + 1) cs = (d, rest))
    (hbreaks : d.breaks = none) : ∃ front, Spaces cs front ∧ Writes front d rest := by
  rw [readValue] at h
  split at h
  next =>
    cases h
    cases hbreaks
  next c behind hskip =>
    refine ⟨c :: behind, spaces_of_skipSpace hskip, ?_⟩
    split at h
    next =>
      obtain ⟨rfl, rfl⟩ := split_of_readNamed h hbreaks
      exact .null rest
    next =>
      obtain ⟨rfl, rfl⟩ := split_of_readNamed h hbreaks
      exact .truth rest
    next =>
      obtain ⟨rfl, rfl⟩ := split_of_readNamed h hbreaks
      exact .falsity rest
    next =>
      obtain ⟨s, hs, rfl⟩ := of_parsed h hbreaks
      obtain ⟨t, ht, rfl⟩ := letters_of_readQuoted hs
      exact .string ht
    next =>
      obtain ⟨n, hn, rfl⟩ := of_parsed h hbreaks
      exact .minus (numeral_of_readNumber hn)
    next =>
      split at h
      next =>
        cases h
        cases hbreaks
      next hclose =>
        cases h
        exact .emptyArray (spaces_of_skipSpace hclose)
      next =>
        rw [readRest_skipSpace] at h
        rcases hread : readRest fuel behind with ⟨ds, ending, behind'⟩
        rw [hread] at h
        cases h
        cases hbreaks
        exact .array (ih.items hread)
    next =>
      split at h
      next hclose =>
        cases h
        exact .emptyObject (spaces_of_skipSpace hclose)
      next =>
        rw [readMembers_skipSpace] at h
        rcases hread : readMembers fuel behind with ⟨ms, ending, behind'⟩
        rw [hread] at h
        cases h
        cases hbreaks
        exact .object (ih.members hread)
    next =>
      split at h
      next =>
        obtain ⟨n, hn, rfl⟩ := of_parsed h hbreaks
        exact .number (numeral_of_readNumber hn)
      next =>
        cases h
        cases hbreaks

theorem Sound.itemsOf {fuel : Nat} (ih : Sound fuel) {ds : List Doc}
    (h : readRest (fuel + 1) cs = (ds, none, rest)) : Items cs ds rest := by
  rw [readRest] at h
  rcases hitem : readValue fuel cs with ⟨item, behind⟩
  cases hbreaks : item.breaks with
  | some b =>
    simp only [hitem, hbreaks] at h
    cases h
  | none =>
    obtain ⟨front, hfront, hwrites⟩ := ih.value hitem hbreaks
    simp only [hitem, hbreaks] at h
    split at h
    next => cases h
    next hclose =>
      cases h
      exact .last (.mk hfront hwrites (spaces_of_skipSpace hclose))
    next cs' hcomma =>
      rcases hmore : readRest fuel cs' with ⟨items, ending, behind'⟩
      rw [hmore] at h
      cases h
      exact .more (.mk hfront hwrites (spaces_of_skipSpace hcomma)) (ih.items hmore)
    next => cases h

theorem Sound.membersOf {fuel : Nat} (ih : Sound fuel) {ms : List Entry}
    (h : readMembers (fuel + 1) cs = (ms, none, rest)) : Members cs ms rest := by
  rw [readMembers] at h
  split at h
  next => cases h
  next name hquote =>
    cases hname : readQuoted fuel name with
    | error b =>
      simp only [hname] at h
      cases h
    | ok r =>
      obtain ⟨key, behind⟩ := r
      obtain ⟨t, ht, rfl⟩ := letters_of_readQuoted hname
      simp only [hname] at h
      split at h
      next => cases h
      next value hcolon =>
        rcases hvalue : readValue fuel value with ⟨d, behind'⟩
        cases hbreaks : d.breaks with
        | some b =>
          simp only [hvalue, hbreaks] at h
          cases h
        | none =>
          obtain ⟨front, hfront, hwrites⟩ := ih.value hvalue hbreaks
          have hmember {more : List Char} (hmore : Spaces behind' more) :
              Member cs (spelt t, d) more :=
            .mk (spaces_of_skipSpace hquote) ht (spaces_of_skipSpace hcolon)
              (.mk hfront hwrites hmore)
          simp only [hvalue, hbreaks] at h
          split at h
          next => cases h
          next hclose =>
            cases h
            exact .last (hmember (spaces_of_skipSpace hclose))
          next cs' hcomma =>
            rcases hmore : readMembers fuel cs' with ⟨members, ending, rest'⟩
            rw [hmore] at h
            cases h
            exact .more (hmember (spaces_of_skipSpace hcomma)) (ih.members hmore)
          next => cases h
      next => cases h
  next => cases h

theorem sound (fuel : Nat) : Sound fuel := by
  induction fuel with
  | zero =>
    constructor
    · intro cs rest d h hbreaks
      cases h
      cases hbreaks
    · intro cs rest ds h
      cases h
    · intro cs rest ms h
      cases h
  | succ fuel ih => exact ⟨ih.writes, ih.itemsOf, ih.membersOf⟩

/-! ### Whole texts -/

variable {text : String}

/-- What a text spells is what it is parsed as, with nothing but white space behind it. -/
theorem parse_of_spells (h : Spells text d) :
    ∃ behind, Doc.parse text = (d, behind) ∧ skipSpace behind = [] := by
  obtain ⟨behind, hread, hbehind, -⟩ := readValue_of_spaced h stops_nil (Nat.lt_succ_self _)
  exact ⟨behind, hread, hbehind.skipSpace_eq⟩

theorem spells_of_parse {behind : List Char} (h : Doc.parse text = (d, behind))
    (hbreaks : d.breaks = none) (hbehind : skipSpace behind = []) : Spells text d := by
  obtain ⟨front, hfront, hd⟩ := (sound _).value h hbreaks
  exact .mk hfront hd (spaces_of_skipSpace hbehind)

variable {α : Type} {read : Doc → Except Fault α}

/-- A text is read as its document is. -/
theorem decode_of_spells (h : Spells text d) : decode read text = read d := by
  obtain ⟨behind, hparse, hbehind⟩ := parse_of_spells h
  simp only [decode, hparse, hbehind, List.isEmpty_nil, if_true]
  exact bind_pure (read d)

/-- A text that is read spells a document, if only documents without a break are read. -/
theorem spells_of_decode {a : α} (hread : ∀ d a, read d = .ok a → d.breaks = none)
    (h : decode read text = .ok a) : ∃ d, Spells text d ∧ read d = .ok a := by
  rcases hparse : Doc.parse text with ⟨d, behind⟩
  simp only [decode, hparse] at h
  obtain ⟨a', ha, h⟩ := exists_of_bind h
  split at h
  next hbehind =>
    cases h
    exact ⟨d, spells_of_parse hparse (hread d a ha) (List.isEmpty_iff.mp hbehind), ha⟩
  next => cases h

/-! ### What is written is passed over -/

mutual

theorem skip_of_writes : {cs : List Char} → {d : Doc} → {rest : List Char} →
    Writes cs d rest → d.skip = .ok ()
  | _, _, _, .null _ | _, _, _, .truth _ | _, _, _, .falsity _ | _, _, _, .number _
  | _, _, _, .minus _ | _, _, _, .string _ | _, _, _, .emptyArray _ | _, _, _, .emptyObject _ => rfl
  | _, _, _, .array hi => by
    rw [Doc.skip, skipItems_of_items hi]
    rfl
  | _, _, _, .object hm => by
    rw [Doc.skip, skipMembers_of_members hm]
    rfl

theorem skip_of_spaced : {cs : List Char} → {d : Doc} → {rest : List Char} →
    Spaced cs d rest → d.skip = .ok ()
  | _, _, _, .mk _ hd _ => skip_of_writes hd

theorem skipItems_of_items : {cs : List Char} → {ds : List Doc} → {rest : List Char} →
    Items cs ds rest → Doc.skipItems ds = .ok ()
  | _, _, _, .last hd => by
    rw [Doc.skipItems, skip_of_spaced hd]
    rfl
  | _, _, _, .more hd hi => by
    rw [Doc.skipItems, skip_of_spaced hd]
    exact skipItems_of_items hi

theorem skip_of_member : {cs : List Char} → {m : Entry} →
    {rest : List Char} → Member cs m rest → m.2.skip = .ok ()
  | _, _, _, .mk _ _ _ hd => skip_of_spaced hd

theorem skipMembers_of_members : {cs : List Char} → {ms : List Entry} →
    {rest : List Char} → Members cs ms rest → Doc.skipMembers ms = .ok ()
  | _, _, _, .last hm => by
    rw [Doc.skipMembers, skip_of_member hm]
    rfl
  | _, _, _, .more hm hms => by
    rw [Doc.skipMembers, skip_of_member hm]
    exact skipMembers_of_members hms

end

end Timelines.Json.Grammar
