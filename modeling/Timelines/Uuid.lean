import Timelines.Number.Word
import Timelines.Text.Hex

/-! Universally unique identifiers: sixteen bytes, ordered as bytes, with the hyphenated
lower-case text as their written form.

Four written forms are read: hyphenated, hyphenated in braces, hyphenated after `urn:uuid:`, and
thirty-two digits in a row. `parse?_text`: what is written is read as the same id. -/
namespace Timelines

structure Uuid where
  bits : BitVec 128
  deriving DecidableEq, Inhabited

namespace Uuid
open Text Number.Word

def toNat (u : Uuid) : Nat := u.bits.toNat

def ofNat (n : Nat) : Uuid := ⟨BitVec.ofNat 128 n⟩

/-- The digits of an id, split where the hyphens go. -/
def groups (u : Uuid) : List (List Char) :=
  let ds := Hex.digits 32 u.toNat
  [ds.take 8, (ds.drop 8).take 4, (ds.drop 12).take 4, (ds.drop 16).take 4, ds.drop 20]

/-- The written form, as characters. -/
def chars (u : Uuid) : List Char :=
  List.intercalate ['-'] u.groups

/-- The written form. -/
def text (u : Uuid) : String :=
  String.ofList u.chars

/-- Thirty-two digits in a row. -/
def ofSimple? (cs : List Char) : Option Uuid :=
  if cs.length = 32 then (Hex.read? 0 cs).map ofNat else none

/-- Thirty-two digits with hyphens after the eighth, twelfth, sixteenth and twentieth. -/
def ofHyphenated? (cs : List Char) : Option Uuid :=
  let hyphen (i : Nat) : Bool := cs[i]? == some '-'
  if cs.length = 36 && hyphen 8 && hyphen 13 && hyphen 18 && hyphen 23 then
    ofSimple? (cs.take 8 ++ (cs.drop 9).take 4 ++ (cs.drop 14).take 4 ++ (cs.drop 19).take 4 ++
      cs.drop 24)
  else none

/-- What introduces the form used in resource names, in any letter case. -/
def urn : List Char := "urn:uuid:".toList

/-- The length of a text tells its form. -/
def ofChars? (cs : List Char) : Option Uuid :=
  if cs.length = 32 then ofSimple? cs
  else if cs.length = 36 then ofHyphenated? cs
  else if cs.length = 38 && cs.head? == some '{' && cs.getLast? == some '}' then
    ofHyphenated? (cs.drop 1).dropLast
  else if cs.length = 45 && (cs.take 9).map Char.toLower == urn then ofHyphenated? (cs.drop 9)
  else none

def parse? (s : String) : Option Uuid := ofChars? s.toList

/-- The version nibble. -/
def version (u : Uuid) : Nat := u.toNat / count 76 % 16

/-- The id of version four, variant one, whose other 122 bits are taken from `n`. -/
def random (n : Nat) : Uuid :=
  let low := n % count 62
  let middle := n / count 62 % count 12
  let high := n / count 74 % count 48
  ofNat (high * count 80 + (4 * count 12 + middle) * count 64 + (2 * count 62 + low))

theorem ofHyphenated?_join {a b c d e : List Char} (ha : a.length = 8) (hb : b.length = 4)
    (hc : c.length = 4) (hd : d.length = 4) (he : e.length = 12) :
    ofHyphenated? (List.intercalate ['-'] [a, b, c, d, e]) = ofSimple? (a ++ b ++ c ++ d ++ e) := by
  have h : (a ++ '-' :: (b ++ '-' :: (c ++ '-' :: (d ++ '-' :: e)))).length = 36 := by
    simp [ha, hb, hc, hd, he]
  have hj : List.intercalate ['-'] [a, b, c, d, e] =
      a ++ '-' :: (b ++ '-' :: (c ++ '-' :: (d ++ '-' :: e))) := by simp [List.intercalate]
  simp only [hj, ofHyphenated?, h]
  simp [List.drop_append, List.drop_eq_nil_of_le, ha, hb, hc, hd, he]

theorem ofSimple?_digits (u : Uuid) : ofSimple? (Hex.digits 32 u.toNat) = some u := by
  have h : u.toNat % Nat.pow 16 32 = u.toNat := Nat.mod_eq_of_lt u.bits.isLt
  simp only [ofSimple?, Hex.length_digits, Hex.read?_digits, h, if_true, Option.map_some, ofNat]
  simp [toNat]

/-- The written form reads back. -/
@[simp] theorem parse?_text (u : Uuid) : parse? u.text = some u := by
  have hs := ofSimple?_digits u
  have hl := Hex.length_digits 32 u.toNat
  simp only [parse?, text, chars, groups, String.toList_ofList]
  generalize Hex.digits 32 u.toNat = ds at hs hl
  have h1 := List.take_append_drop 8 ds
  have h2 := List.take_append_drop 4 (ds.drop 8)
  have h3 := List.take_append_drop 4 (ds.drop 12)
  have h4 := List.take_append_drop 4 (ds.drop 16)
  simp only [List.drop_drop] at h2 h3 h4
  have hj := ofHyphenated?_join (a := ds.take 8) (b := (ds.drop 8).take 4)
    (c := (ds.drop 12).take 4) (d := (ds.drop 16).take 4) (e := ds.drop 20) (by simp [hl])
    (by simp [hl]) (by simp [hl]) (by simp [hl]) (by simp [hl])
  simp only [List.append_assoc, h4, h3, h2, h1, hs] at hj
  rw [ofChars?, hj]
  simp [List.intercalate, hl]

end Uuid
end Timelines
