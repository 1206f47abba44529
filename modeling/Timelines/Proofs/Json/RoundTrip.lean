import Mathlib.Tactic.SplitIfs
import Timelines.Json.Printer
import Timelines.Proofs.Json.Texts

/-! The compact text of a value reads back.

`Numberless.spells`: the text of a value without numbers spells its document. The grammar takes what
is printed piece by piece: an escaped character is one letter of a string (`letters_escape`), and a
value is written whatever follows it (`Written`). No reader is looked at here: a text is read as the
document it spells. -/
namespace Timelines.Json
open Text Grammar

/-! ### Strings -/

/-- The digits of a control character are its code unit. -/
theorem unit_digits {n : Nat} (h : n < 0x20) (rest : List Char) :
    Unit (Hex.digits 4 n ++ rest) n rest := by
  have hn : n % Nat.pow 16 4 = n := Nat.mod_eq_of_lt (by rw [Nat.pow_eq]; omega)
  refine ⟨Hex.digits 4 n, Hex.length_digits 4 n, rfl, ?_⟩
  rw [Hex.read?_digits, hn, Nat.zero_mul, Nat.zero_add]

theorem escape_control {c : Char} (h : c.toNat < 0x20) (rest : List Char) :
    Escape ('u' :: (Hex.digits 4 c.toNat ++ rest)) (.char c) rest := by
  have hescape : Escape ('u' :: (Hex.digits 4 c.toNat ++ rest)) (.char (Char.ofNat c.toNat)) rest :=
    .unit (unit_digits h rest) (by omega) (by omega)
  rwa [Char.ofNat_toNat] at hescape

variable {cs rest : List Char}

/-- An escaped character is one letter of a string. -/
theorem letters_escape (c : Char) {s : List Char} (h : Letters cs (.ok s) rest) :
    Letters (escape c ++ cs) (.ok (c :: s)) rest := by
  unfold escape
  split_ifs with hquote hbackslash hb hf hn hr ht hcontrol
  · subst hquote; exact .escape (.short cs .quote) h
  · subst hbackslash; exact .escape (.short cs .backslash) h
  · subst hb; exact .escape (.short cs .backspace) h
  · subst hf; exact .escape (.short cs .feed) h
  · subst hn; exact .escape (.short cs .line) h
  · subst hr; exact .escape (.short cs .carriage) h
  · subst ht; exact .escape (.short cs .tab) h
  · exact .escape (escape_control hcontrol cs) h
  · exact .plain hquote hbackslash hcontrol h

/-- The escaped characters of a string are its letters, up to the quote. -/
theorem letters_chars (s rest : List Char) :
    Letters (s.flatMap escape ++ '"' :: rest) (.ok s) rest := by
  induction s with
  | nil => exact .close rest
  | cons c s ih =>
    rw [List.flatMap_cons, List.append_assoc]
    exact letters_escape c ih

theorem toList_quote (s : String) :
    (quote s).toList = '"' :: (s.toList.flatMap escape ++ ['"']) := by
  rw [quote, String.toList_ofList, quoteChars]

/-- A string is what its characters spell. -/
theorem spelt_toList (s : String) : spelt (.ok s.toList) = .ok s :=
  congrArg Except.ok String.ofList_toList

/-! ### Values -/

namespace Value

/-- Values in which no number stands. -/
inductive Numberless : Value → Prop
  | null : Numberless null
  | bool (b : Bool) : Numberless (bool b)
  | string (s : String) : Numberless (string s)
  | array {items : List Value} (h : ∀ v ∈ items, Numberless v) : Numberless (array items)
  | object {members : List (String × Value)} (h : ∀ m ∈ members, Numberless m.2) :
    Numberless (object members)

/-- A value's text is in the grammar, whatever follows it. -/
def Written (v : Value) : Prop :=
  ∀ rest, Writes (v.compact.toList ++ rest) v.toDoc rest

/-- Nothing but the text itself stands around a value. -/
theorem Written.spaced {v : Value} (h : Written v) (rest : List Char) :
    Spaced (v.compact.toList ++ rest) v.toDoc rest :=
  .mk (.nothing _) (h rest) (.nothing _)

/-- The text of items, one behind the other. -/
def itemChars (vs : List Value) : List Char :=
  [','].intercalate ((compactItems vs).map String.toList)

def memberChars (ms : List (String × Value)) : List Char :=
  [','].intercalate ((compactMembers ms).map String.toList)

theorem toList_array (items : List Value) :
    (array items).compact.toList = '[' :: (itemChars items ++ [']']) := by
  simp [compact, itemChars, String.toList_intercalate]

theorem toList_object (members : List (String × Value)) :
    (object members).compact.toList = '\x7b' :: (memberChars members ++ ['\x7d']) := by
  simp [compact, memberChars, String.toList_intercalate]

theorem itemChars_singleton (v : Value) : itemChars [v] = v.compact.toList := by
  simp [itemChars, compactItems]

theorem itemChars_cons (v w : Value) (vs : List Value) :
    itemChars (v :: w :: vs) = v.compact.toList ++ ',' :: itemChars (w :: vs) := by
  simp [itemChars, compactItems, List.intercalate_cons_cons]

/-- The text of a member. -/
def memberText (m : String × Value) : List Char :=
  '"' :: (m.1.toList.flatMap escape ++ '"' :: ':' :: m.2.compact.toList)

theorem memberChars_singleton (m : String × Value) : memberChars [m] = memberText m := by
  simp [memberChars, memberText, compactMembers, toList_quote]

theorem memberChars_cons (m next : String × Value) (ms : List (String × Value)) :
    memberChars (m :: next :: ms) = memberText m ++ ',' :: memberChars (next :: ms) := by
  simp [memberChars, memberText, compactMembers, List.intercalate_cons_cons, toList_quote]

theorem written_string (s : String) : Written (string s) := by
  intro rest
  rw [compact, toList_quote, toDoc, ← spelt_toList, List.cons_append, List.append_assoc]
  exact .string (letters_chars s.toList rest)

theorem items_itemChars {v : Value} {vs : List Value} (h : ∀ w ∈ v :: vs, Written w)
    (rest : List Char) : Items (itemChars (v :: vs) ++ ']' :: rest) (toDocs (v :: vs)) rest := by
  have hv : Written v := h v List.mem_cons_self
  induction vs generalizing v with
  | nil =>
    rw [itemChars_singleton]
    exact .last (hv.spaced _)
  | cons w vs ih =>
    have hw := ih (fun x hx => h x (List.mem_cons_of_mem v hx)) (h w (by simp))
    rw [itemChars_cons, List.append_assoc]
    exact .more (hv.spaced _) hw

theorem written_array {items : List Value} (h : ∀ v ∈ items, Written v) :
    Written (array items) := by
  intro rest
  rw [toList_array, List.cons_append, List.append_assoc]
  cases items with
  | nil => exact .emptyArray (.nothing _)
  | cons v vs => exact .array (items_itemChars h rest)

theorem member_memberText {m : String × Value} (h : Written m.2) (rest : List Char) :
    Member (memberText m ++ rest) (.ok m.1, m.2.toDoc) rest := by
  rw [← spelt_toList, memberText, List.cons_append, List.append_assoc]
  exact .mk (.nothing _) (letters_chars ..) (.nothing _) (h.spaced rest)

theorem members_memberChars {m : String × Value} {ms : List (String × Value)}
    (h : ∀ w ∈ m :: ms, Written w.2) (rest : List Char) :
    Members (memberChars (m :: ms) ++ '\x7d' :: rest) (toPairs (m :: ms)) rest := by
  have hm : Written m.2 := h m List.mem_cons_self
  induction ms generalizing m with
  | nil =>
    rw [memberChars_singleton]
    exact .last (member_memberText hm _)
  | cons next ms ih =>
    have hmore := ih (fun x hx => h x (List.mem_cons_of_mem m hx)) (h next (by simp))
    rw [memberChars_cons, List.append_assoc]
    exact .more (member_memberText hm _) hmore

theorem written_object {members : List (String × Value)} (h : ∀ m ∈ members, Written m.2) :
    Written (object members) := by
  intro rest
  rw [toList_object, List.cons_append, List.append_assoc]
  cases members with
  | nil => exact .emptyObject (.nothing _)
  | cons m ms => exact .object (members_memberChars h rest)

theorem Numberless.written {v : Value} (h : Numberless v) : Written v := by
  induction h with
  | null => exact .null
  | bool b =>
    cases b with
    | true => exact .truth
    | false => exact .falsity
  | string s => exact written_string s
  | array _ ih => exact written_array ih
  | object _ ih => exact written_object ih

/-- The text that a value is written as spells its document. -/
theorem Numberless.spells {v : Value} (h : Numberless v) : Spells v.compact v.toDoc := by
  have hspaced := h.written.spaced []
  rwa [List.append_nil] at hspaced

/-- Whatever reads a value's document reads it from its text. -/
theorem Numberless.decode_compact {α : Type} {v : Value} (h : Numberless v)
    (read : Doc → Except Fault α) : decode read v.compact = read v.toDoc :=
  decode_of_spells h.spells

end Value
end Timelines.Json
