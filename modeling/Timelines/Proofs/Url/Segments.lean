import Timelines.Proofs.Except
import Timelines.Proofs.Url.Percent
import Timelines.Url.Parser

/-! Segments put behind a path, and read back.

A text is written as a segment so that it reads back as it is (`decoded_written`), and without a
slash. A segment that is written like a step up, or none, reads back as one (`decoded_of_upward`,
`decoded_of_staying`), so no other text takes a step. What is put behind a path stands there at its
end if it is no step and holds no tab and no line break (`push_of_kept`), and is left out or becomes
another text if it is or does (`push_of_not_kept`). -/
namespace Timelines.Url
open Text

/-- The bytes that a segment stands for as it is written. -/
def decoded (segment : String) : ByteArray := (Percent.decode segment.toList).toByteArray

/-- How a text is written as a segment. -/
def written (special : Bool) (s : String) : String :=
  String.ofList (Percent.encode (Percent.inSegment special) s.toList)

theorem decoded_written (special : Bool) (s : String) :
    decoded (written special s) = s.toByteArray := by
  have hpercent : Percent.inSegment special '%' = true := by cases special <;> decide
  rw [decoded, written, String.toList_ofList, Percent.decode_encode hpercent]
  exact String.utf8Encode_toList

theorem map_decoded_written (special : Bool) (texts : List String) :
    (texts.map (written special)).map decoded = texts.map String.toByteArray := by
  rw [List.map_map]
  refine List.map_congr_left fun s _ => ?_
  rw [Function.comp_apply, decoded_written]

theorem written_injective {special : Bool} {s t : String}
    (h : written special s = written special t) : s = t := by
  rw [← String.toByteArray_inj, ← decoded_written special, h, decoded_written]

theorem slash_not_mem_written (special : Bool) (s : String) :
    '/' ∉ (written special s).toList := by
  intro h
  rw [written, String.toList_ofList] at h
  obtain h | h | ⟨n, hn, h⟩ := Percent.mem_encode h
  · cases special <;> exact absurd h (by decide)
  · exact absurd h (by decide)
  · exact absurd h ((by decide : ∀ n < 16, '/' ≠ Hex.digitUpper n) n hn)

/-! ### Steps -/

theorem eq_of_toLower {c d : Char} (h : c.toLower = d) : c = d ∨ c = d.toUpper := by
  subst h
  by_cases hc : c.toNat < 128
  · have hascii : ∀ n < 128, Char.ofNat n = (Char.ofNat n).toLower ∨
        Char.ofNat n = (Char.ofNat n).toLower.toUpper := by decide
    simpa using hascii c.toNat hc
  · left
    delta Char.toLower
    rw [dif_neg]
    rintro ⟨-, hz⟩
    have := UInt32.le_iff_toNat_le.mp hz
    exact hc (Nat.lt_of_le_of_lt this (by decide))

/-- A full stop, by itself or encoded. -/
theorem decode_of_stop {c : Char} (h : c.toLower = '.') (rest : List Char) :
    Percent.decode (c :: rest) = 0x2E :: Percent.decode rest := by
  obtain rfl : c = '.' := by simpa using eq_of_toLower h
  rw [Percent.decode_cons (by decide)]
  rfl

theorem decode_of_escaped {a b c : Char} (ha : a.toLower = '%') (hb : b.toLower = '2')
    (hc : c.toLower = 'e') (rest : List Char) :
    Percent.decode (a :: b :: c :: rest) = 0x2E :: Percent.decode rest := by
  obtain rfl : a = '%' := by simpa using eq_of_toLower ha
  obtain rfl : b = '2' := by simpa using eq_of_toLower hb
  obtain rfl | rfl : c = 'e' ∨ c = 'E' := eq_of_toLower hc
  · rfl
  · rfl

theorem decoded_of_staying {s : String} (h : staying s = true) : decoded s = ".".toByteArray := by
  have hlower : lower s.toList = ['.'] ∨ lower s.toList = ['%', '2', 'e'] := by
    simpa [staying, ← String.toList_inj] using h
  simp only [lower, List.map_eq_cons_iff, List.map_eq_nil_iff] at hlower
  obtain ⟨c, _, hs, hc, rfl⟩ | ⟨a, _, hs, ha, b, _, rfl, hb, c, _, rfl, hc, rfl⟩ := hlower
  · rw [decoded, hs, decode_of_stop hc]
    rfl
  · rw [decoded, hs, decode_of_escaped ha hb hc]
    rfl

theorem decoded_of_upward {s : String} (h : upward s = true) : decoded s = "..".toByteArray := by
  have hlower : lower s.toList = ['.', '.'] ∨ lower s.toList = ['%', '2', 'e', '.'] ∨
      lower s.toList = ['.', '%', '2', 'e'] ∨
      lower s.toList = ['%', '2', 'e', '%', '2', 'e'] := by
    simpa [upward, ← String.toList_inj] using h
  simp only [lower, List.map_eq_cons_iff, List.map_eq_nil_iff] at hlower
  obtain ⟨c, _, hs, hc, d, _, rfl, hd, rfl⟩ |
    ⟨a, _, hs, ha, b, _, rfl, hb, c, _, rfl, hc, d, _, rfl, hd, rfl⟩ |
    ⟨d, _, hs, hd, a, _, rfl, ha, b, _, rfl, hb, c, _, rfl, hc, rfl⟩ |
    ⟨a, _, hs, ha, b, _, rfl, hb, c, _, rfl, hc, d, _, rfl, hd, e, _, rfl, he, f, _, rfl, hf,
      rfl⟩ := hlower
  · rw [decoded, hs, decode_of_stop hc, decode_of_stop hd]
    rfl
  · rw [decoded, hs, decode_of_escaped ha hb hc, decode_of_stop hd]
    rfl
  · rw [decoded, hs, decode_of_stop hd, decode_of_escaped ha hb hc]
    rfl
  · rw [decoded, hs, decode_of_escaped ha hb hc, decode_of_escaped hd he hf]
    rfl

/-! ### Segments put behind a path -/

/-- The text is no step, and holds no tab and no line break. -/
def Kept (s : String) : Prop :=
  s ≠ "." ∧ s ≠ ".." ∧ ∀ c ∈ s.toList, c ≠ '\t' ∧ c ≠ '\n' ∧ c ≠ '\r'

instance (s : String) : Decidable (Kept s) :=
  -- Character by character of the text, not over all characters there are.
  letI := List.decidableBAll (fun c => c ≠ '\t' ∧ c ≠ '\n' ∧ c ≠ '\r') s.toList
  inferInstanceAs (Decidable (_ ∧ _ ∧ _))

/-- The text without its tabs and line breaks. -/
def visible (s : String) : String :=
  String.ofList (s.toList.filter fun c => c != '\t' && c != '\n' && c != '\r')

theorem visible_eq_iff (s : String) :
    visible s = s ↔ ∀ c ∈ s.toList, c ≠ '\t' ∧ c ≠ '\n' ∧ c ≠ '\r' := by
  rw [visible, ← String.toList_inj, String.toList_ofList, List.filter_eq_self]
  simp [and_assoc]

/-- The segments that others are put behind: the path `/` has none. -/
def front (parts : List String) : List String := if parts = [""] then [] else parts

theorem length_front_le (parts : List String) : (front parts).length ≤ parts.length := by
  unfold front
  split
  · exact Nat.zero_le _
  · exact Nat.le_refl _

theorem push_eq {u : Url} {parts : List String} (h : u.path = .segments parts) {s : String}
    (hs : s ≠ "." ∧ s ≠ "..") :
    u.push s = { u with
      path := .segments (addSegments (front parts) [written u.special (visible s)]) } := by
  simp [push, h, hs.1, hs.2, written, visible, front]

theorem addSegments_written {s : String} (hs : s ≠ "." ∧ s ≠ "..") (special : Bool)
    (parts : List String) :
    addSegments parts [written special s] = parts ++ [written special s] := by
  have hup : ¬upward (written special s) := fun h => hs.2 <| by
    rw [← String.toByteArray_inj, ← decoded_written special, decoded_of_upward h]
  have hstay : ¬staying (written special s) := fun h => hs.1 <| by
    rw [← String.toByteArray_inj, ← decoded_written special, decoded_of_staying h]
  rw [addSegments, if_neg hup, if_neg hstay]

theorem push_of_kept {u : Url} {parts : List String} (h : u.path = .segments parts) {s : String}
    (hs : Kept s) :
    u.push s = { u with path := .segments (front parts ++ [written u.special s]) } := by
  have hsteps : s ≠ "." ∧ s ≠ ".." := ⟨hs.1, hs.2.1⟩
  rw [push_eq h hsteps, (visible_eq_iff s).mpr hs.2.2, addSegments_written hsteps]

/-- What is put behind a path only adds to it if it takes no step. -/
theorem addSegments_cases (parts : List String) (w : String) :
    addSegments parts [w] = parts.dropLast ++ [""] ∨ addSegments parts [w] = parts ++ [""] ∨
      addSegments parts [w] = parts ++ [w] := by
  rw [addSegments]
  split
  · exact .inl rfl
  · split
    · exact .inr (.inl rfl)
    · exact .inr (.inr rfl)

/-- A text that is not kept is left out, or stands there as another one. -/
theorem push_of_not_kept {u : Url} {parts : List String} (h : u.path = .segments parts)
    (hne : front parts ≠ []) {s : String} (hs : ¬Kept s) :
    ∃ parts', u.push s = { u with path := .segments parts' } ∧
      (parts'.length ≤ parts.length ∨
        ∃ w, parts' = parts ++ [w] ∧ decoded w ≠ s.toByteArray) := by
  by_cases hstep : s = "." ∨ s = ".."
  · have hleft : (s == "." || s == "..") = true := by simpa using hstep
    refine ⟨parts, ?_, .inl (Nat.le_refl _)⟩
    rw [← h, push]
    simp only [h, hleft, if_true]
    rw [← h]
  · have hsteps : s ≠ "." ∧ s ≠ ".." := ⟨fun he => hstep (.inl he), fun he => hstep (.inr he)⟩
    have hseen : visible s ≠ s := fun hv => hs ⟨hsteps.1, hsteps.2, (visible_eq_iff s).mp hv⟩
    have hfront : front parts = parts := if_neg fun he => hne (if_pos he)
    have hpos := List.length_pos_iff.mpr (hfront ▸ hne)
    refine ⟨_, push_eq h hsteps, ?_⟩
    rw [hfront]
    obtain he | he | he := addSegments_cases parts (written u.special (visible s)) <;> rw [he]
    · refine .inl ?_
      rw [List.length_append, List.length_dropLast, List.length_singleton]
      omega
    · refine .inr ⟨"", rfl, fun hempty => hseen ?_⟩
      have hs : "" = s := String.toByteArray_inj.mp hempty
      rw [← hs]
      rfl
    · refine .inr ⟨_, rfl, ?_⟩
      rw [decoded_written, Ne, String.toByteArray_inj]
      exact hseen

/-- A path without one empty last segment, and without the lone empty segment that may be left. -/
def trunk (parts : List String) : List String :=
  front (if parts.getLast? = some "" then parts.dropLast else parts)

theorem popIfEmpty_eq {u : Url} {parts : List String} (h : u.path = .segments parts) :
    ∃ parts', u.popIfEmpty = { u with path := .segments parts' } ∧ front parts' = trunk parts := by
  simp only [popIfEmpty, h]
  by_cases hlast : parts.getLast? = some ""
  · by_cases hlong : 1 < parts.length
    · refine ⟨parts.dropLast, by simp [hlast, hlong], by rw [trunk, if_pos hlast]⟩
    · obtain ⟨s, rfl⟩ : ∃ s, parts = [s] := List.length_eq_one_iff.mp <| by
        have := List.length_pos_of_mem (List.mem_of_getLast? hlast)
        omega
      obtain rfl : s = "" := by simpa using hlast
      exact ⟨[""], by simp [← h], rfl⟩
  · exact ⟨parts, by simp [hlast, ← h], by rw [trunk, if_neg hlast]⟩

theorem toList_text_segments (parts : List String) :
    (Path.segments parts).text.toList = parts.flatMap fun s => '/' :: s.toList := by
  rw [Path.text]
  induction parts with
  | nil => rfl
  | cons s parts ih => simp [String.join_cons, ih]

/-! ### Bases -/

theorem canBeBase_of_readAuthority {scheme : String} {cs : List Char} {u : Url}
    (h : readAuthority scheme cs = .ok u) : u.canBeBase := by
  unfold readAuthority at h
  dsimp only at h
  split at h
  · obtain ⟨host, -, h⟩ := exists_of_bind h
    obtain ⟨port, -, h⟩ := exists_of_bind h
    cases h
    rfl
  · split at h
    · cases h
    · obtain ⟨host, -, h⟩ := exists_of_bind h
      obtain ⟨port, -, h⟩ := exists_of_bind h
      cases h
      rfl

theorem canBeBase_of_readFile {cs : List Char} {u : Url} (h : readFile cs = .ok u) :
    u.canBeBase := by
  unfold readFile at h
  dsimp only at h
  split at h
  · split at h <;> split at h
    all_goals
      obtain ⟨host, -, h⟩ := exists_of_bind h
      cases h
      rfl
  · cases h
    rfl

theorem canBeBase_of_readAfterScheme {scheme : String} {cs : List Char} {u : Url}
    (h : readAfterScheme scheme cs = .ok u) (hspecial : u.special) : u.canBeBase := by
  unfold readAfterScheme at h
  split at h
  · exact canBeBase_of_readFile h
  · split at h
    · exact canBeBase_of_readAuthority h
    · split at h
      · exact canBeBase_of_readAuthority h
      · cases h
        rfl
      · cases h
        contradiction

/-- URLs of special schemes can be bases, such as those of the web. -/
theorem canBeBase_of_parse {text : String} {u : Url} (h : parse text = .ok u)
    (hspecial : u.special) : u.canBeBase := by
  unfold parse at h
  split at h
  · exact canBeBase_of_readAfterScheme h hspecial
  · cases h

end Timelines.Url
