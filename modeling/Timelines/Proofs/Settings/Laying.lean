import Mathlib.Data.List.Forall2
import Timelines.Settings.Node

/-! Layers that differ in hidden keys only.

Some keys of some sections are hidden: what is given to them is not to matter, nor whether anything
is. `LikeLayers` pairs the entries of two layers. Those of one pair are alike but for hidden keys,
and an entry that gives hidden keys alone may stand in one of the layers only. A layer may name a
hidden key, or something below one, by a path, which `LikeAt` and `MuteAt` follow.

What such layers come to has the same entries in each section but for the hidden ones, and the same
sections where no key is hidden (`Shown.addLayers`). It is not the same otherwise: where a section
is given as something that is no table, a hidden key puts a table in its place. -/
namespace Timelines.Settings.Node

/-! ### Entries -/

theorem lookup_put_self (key : String) (value : Node) (es : List (String × Node)) :
    (put key value es).lookup key = some value := by
  induction es with
  | nil => exact List.lookup_cons_self
  | cons e rest ih =>
    obtain ⟨k, v⟩ := e
    unfold put
    split
    next hk =>
      rw [hk]
      exact List.lookup_cons_self
    next hk =>
      have hne : (key == k) = false := beq_false_of_ne (Ne.symm hk)
      rw [List.lookup_cons, hne]
      exact ih

theorem lookup_put_of_ne {key k : String} (h : k ≠ key) (value : Node) (es : List (String × Node)) :
    (put key value es).lookup k = es.lookup k := by
  induction es with
  | nil =>
    rw [put, List.lookup_cons, beq_false_of_ne h]
  | cons e rest ih =>
    obtain ⟨k', v⟩ := e
    unfold put
    split
    next hk =>
      rw [List.lookup_cons, List.lookup_cons, hk, beq_false_of_ne h]
    next => rw [List.lookup_cons, List.lookup_cons, ih]

/-! ### Sections -/

section Section
variable (hidden : String → Bool)

/-- The entries whose keys are not hidden. -/
def visible (es : List (String × Node)) : List (String × Node) := es.filter fun e => !hidden e.1

/-- A section without its hidden keys. -/
def bare : Node → Node
  | table es => table (visible hidden es)
  | n => n

variable {hidden}

theorem visible_cons_of_hidden {key : String} (h : hidden key = true) (value : Node)
    (es : List (String × Node)) : visible hidden ((key, value) :: es) = visible hidden es := by
  simp [visible, h]

theorem visible_cons {key : String} (h : hidden key = false) (value : Node)
    (es : List (String × Node)) :
    visible hidden ((key, value) :: es) = (key, value) :: visible hidden es := by
  simp [visible, h]

theorem visible_put_of_hidden {key : String} (h : hidden key = true) (value : Node)
    (es : List (String × Node)) : visible hidden (put key value es) = visible hidden es := by
  induction es with
  | nil => exact visible_cons_of_hidden h value []
  | cons e rest ih =>
    obtain ⟨k, v⟩ := e
    unfold put
    split
    next hk =>
      subst hk
      rw [visible_cons_of_hidden h, visible_cons_of_hidden h]
    next =>
      cases hv : hidden k with
      | true => rw [visible_cons_of_hidden hv, visible_cons_of_hidden hv, ih]
      | false => rw [visible_cons hv, visible_cons hv, ih]

theorem visible_put {key : String} (h : hidden key = false) (value : Node)
    (es : List (String × Node)) :
    visible hidden (put key value es) = put key value (visible hidden es) := by
  induction es with
  | nil => exact visible_cons h value []
  | cons e rest ih =>
    obtain ⟨k, v⟩ := e
    by_cases hk : k = key
    · subst hk
      rw [put, if_pos rfl, visible_cons h, visible_cons h, put, if_pos rfl]
    · rw [put, if_neg hk]
      cases hv : hidden k with
      | true => rw [visible_cons_of_hidden hv, visible_cons_of_hidden hv, ih]
      | false => rw [visible_cons hv, visible_cons hv, ih, put, if_neg hk]

theorem lookup_visible {key : String} (h : hidden key = false) (es : List (String × Node)) :
    (visible hidden es).lookup key = es.lookup key := by
  induction es with
  | nil => rfl
  | cons e rest ih =>
    obtain ⟨k, v⟩ := e
    cases hv : hidden k with
    | true =>
      have hk : (key == k) = false := by
        rw [beq_eq_false_iff_ne]
        rintro rfl
        rw [h] at hv
        cases hv
      rw [visible_cons_of_hidden hv, ih, List.lookup_cons, hk]
    | false => rw [visible_cons hv, List.lookup_cons, List.lookup_cons, ih]

theorem visible_of_all_hidden {es : List (String × Node)} (h : ∀ e ∈ es, hidden e.1 = true) :
    visible hidden es = [] := by
  simpa [visible] using h

theorem visible_layAll (es below : List (String × Node)) :
    visible hidden (layAll es below) = layAll (visible hidden es) (visible hidden below) := by
  induction es generalizing below with
  | nil => rfl
  | cons e rest ih =>
    obtain ⟨k, v⟩ := e
    rw [layAll, ih]
    cases hv : hidden k with
    | true => rw [visible_put_of_hidden hv, visible_cons_of_hidden hv]
    | false => rw [visible_put hv, visible_cons hv, layAll, lookup_visible hv]

/-- Where nothing is hidden, nothing is left out. -/
theorem bare_eq_self (h : ∀ key, hidden key = false) (n : Node) : bare hidden n = n := by
  cases n with
  | table es => simp [bare, visible, h]
  | _ => rfl

variable (hidden)

/-- Values that are alike where a path leads to from a section. -/
def LikeAt : List Step → Node → Node → Prop
  | [], a, b => bare hidden a = bare hidden b
  | .key k :: _, a, b => hidden k = true ∨ a = b
  | .index _ :: _, a, b => a = b

/-- A value that gives hidden keys alone, where a path leads to from a section that has some. -/
def MuteAt : List Step → Node → Prop
  | [], table es => (∃ key, hidden key = true) ∧ ∀ e ∈ es, hidden e.1 = true
  | .key k :: _, _ => hidden k = true
  | _, _ => False

variable {hidden}

theorem LikeAt.refl (steps : List Step) (a : Node) : LikeAt hidden steps a a := by
  cases steps with
  | nil => rfl
  | cons step rest =>
    cases step with
    | key k => exact .inr rfl
    | index n => rfl

/-- Where nothing is hidden, alike is the same. -/
theorem LikeAt.eq {steps : List Step} {a b : Node} (hv : LikeAt hidden steps a b)
    (h : ∀ key, hidden key = false) : a = b := by
  match steps with
  | [] =>
    have hab : bare hidden a = bare hidden b := hv
    rwa [bare_eq_self h, bare_eq_self h] at hab
  | .key k :: _ => exact hv.resolve_left (by rw [h]; exact nofun)
  | .index _ :: _ => exact hv

theorem MuteAt.exists_hidden {steps : List Step} {a : Node} (h : MuteAt hidden steps a) :
    ∃ key, hidden key = true := by
  unfold MuteAt at h
  split at h
  · exact h.1
  · exact ⟨_, h⟩
  · cases h

/-- Values that are alike leave sections of the same visible entries with the same. -/
theorem visible_layAt {steps : List Step} {a b n n' : Node} (hv : LikeAt hidden steps a b)
    (h : visible hidden n.entries = visible hidden n'.entries) :
    visible hidden (layAt steps a n).entries = visible hidden (layAt steps b n').entries := by
  match steps with
  | [] =>
    have hab : bare hidden a = bare hidden b := hv
    rw [layAt, layAt]
    cases a with
    | table es =>
      cases b with
      | table es' =>
        have hes : visible hidden es = visible hidden es' := Node.table.inj hab
        rw [lay, lay, entries, entries, visible_layAll, visible_layAll, h, hes]
      | _ => cases hab
    | _ =>
      cases b with
      | table es' => cases hab
      | _ => rfl
  | .key k :: rest =>
    rw [layAt, layAt, entries, entries]
    cases hk : hidden k with
    | true => rw [visible_put_of_hidden hk, visible_put_of_hidden hk, h]
    | false =>
      have hab : a = b := hv.resolve_left (by rw [hk]; exact nofun)
      rw [visible_put hk, visible_put hk, h, hab, ← lookup_visible hk n.entries, h,
        lookup_visible hk]
  | .index _ :: _ => rfl

/-- Hidden keys leave the visible entries of a section as they are. -/
theorem visible_layAt_of_mute {steps : List Step} {a : Node} (hm : MuteAt hidden steps a)
    (n : Node) : visible hidden (layAt steps a n).entries = visible hidden n.entries := by
  unfold MuteAt at hm
  split at hm
  next es =>
    rw [layAt, lay, entries, visible_layAll, visible_of_all_hidden hm.2]
    rfl
  next k rest _ => rw [layAt, entries, visible_put_of_hidden hm]
  next => cases hm

end Section

/-! ### All sections -/

section Sections
variable (hidden : String → String → Bool)

/-- Two tables of sections show the same: the same visible entries in each section, and the same
sections where no key is hidden. -/
structure Shown (es es' : List (String × Node)) : Prop where
  entries (part : String) : visible (hidden part) ((es.lookup part).getD null).entries =
    visible (hidden part) ((es'.lookup part).getD null).entries
  whole (part : String) (h : ∀ key, hidden part key = false) : es.lookup part = es'.lookup part

/-- Values that are alike where a path leads to from the top. -/
def Like : List Step → Node → Node → Prop
  | .key k :: rest, a, b => LikeAt (hidden k) rest a b
  | _, a, b => a = b

/-- A value that gives hidden keys alone, where a path leads to from the top. -/
def Mute : List Step → Node → Prop
  | .key k :: rest, a => MuteAt (hidden k) rest a
  | _, _ => False

/-- Layers that differ in hidden keys only: in what they give to them, and in whether they do. -/
inductive LikeLayers : List (String × Node) → List (String × Node) → Prop
  | nil : LikeLayers [] []
  | both {key : String} {a b : Node} {l l' : List (String × Node)} : Like hidden (path key) a b →
      LikeLayers l l' → LikeLayers ((key, a) :: l) ((key, b) :: l')
  | left {key : String} {a : Node} {l l' : List (String × Node)} : Mute hidden (path key) a →
      LikeLayers l l' → LikeLayers ((key, a) :: l) l'
  | right {key : String} {b : Node} {l l' : List (String × Node)} : Mute hidden (path key) b →
      LikeLayers l l' → LikeLayers l ((key, b) :: l')

variable {hidden} {es es' : List (String × Node)}

theorem LikeLayers.refl (l : List (String × Node)) : LikeLayers hidden l l := by
  induction l with
  | nil => exact .nil
  | cons e l ih =>
    refine .both ?_ ih
    unfold Like
    split
    · exact LikeAt.refl ..
    · rfl

namespace Shown

theorem refl (es : List (String × Node)) : Shown hidden es es := ⟨fun _ => rfl, fun _ _ => rfl⟩

theorem symm (h : Shown hidden es es') : Shown hidden es' es :=
  ⟨fun part => (h.entries part).symm, fun part hp => (h.whole part hp).symm⟩

theorem put (h : Shown hidden es es') {k : String} {a b : Node}
    (hentries : visible (hidden k) a.entries = visible (hidden k) b.entries)
    (hwhole : (∀ key, hidden k key = false) → a = b) :
    Shown hidden (Node.put k a es) (Node.put k b es') where
  entries part := by
    by_cases hp : part = k
    · rw [hp, lookup_put_self, lookup_put_self]
      exact hentries
    · rw [lookup_put_of_ne hp, lookup_put_of_ne hp]
      exact h.entries part
  whole part hnone := by
    by_cases hp : part = k
    · subst hp
      rw [lookup_put_self, lookup_put_self, hwhole hnone]
    · rw [lookup_put_of_ne hp, lookup_put_of_ne hp]
      exact h.whole part hnone

/-- A section with hidden keys changes in one of the tables, and shows the same. -/
theorem put_left (h : Shown hidden es es') {k : String} {a : Node}
    (hentries : visible (hidden k) a.entries =
      visible (hidden k) ((es.lookup k).getD null).entries)
    (hsome : ∃ key, hidden k key = true) : Shown hidden (Node.put k a es) es' where
  entries part := by
    by_cases hp : part = k
    · rw [hp, lookup_put_self]
      exact hentries.trans (h.entries k)
    · rw [lookup_put_of_ne hp]
      exact h.entries part
  whole part hnone := by
    have hp : part ≠ k := by
      rintro rfl
      obtain ⟨key, hkey⟩ := hsome
      rw [hnone key] at hkey
      cases hkey
    rw [lookup_put_of_ne hp]
    exact h.whole part hnone

end Shown

/-- A path begins with a key. -/
theorem exists_path (key : String) : ∃ k rest, path key = .key k :: rest := by
  unfold path
  dsimp only
  split <;> exact ⟨_, _, rfl⟩

namespace Shown
variable {below below' : Node}

theorem both {key : String} {a b : Node} (h : Shown hidden below.entries below'.entries)
    (hv : Like hidden (path key) a b) :
    Shown hidden (layAt (path key) a below).entries (layAt (path key) b below').entries := by
  obtain ⟨k, rest, hp⟩ := exists_path key
  rw [hp] at hv ⊢
  refine h.put (visible_layAt hv (h.entries k)) fun hnone => ?_
  rw [LikeAt.eq hv hnone, h.whole k hnone]

theorem left {key : String} {a : Node} (h : Shown hidden below.entries below'.entries)
    (hm : Mute hidden (path key) a) :
    Shown hidden (layAt (path key) a below).entries below'.entries := by
  obtain ⟨k, rest, hp⟩ := exists_path key
  rw [hp] at hm ⊢
  exact h.put_left (visible_layAt_of_mute hm _) (MuteAt.exists_hidden hm)

theorem addLayer {l l' : List (String × Node)} (hl : LikeLayers hidden l l')
    (h : Shown hidden below.entries below'.entries) :
    Shown hidden (Node.addLayer below l).entries (Node.addLayer below' l').entries := by
  induction hl generalizing below below' with
  | nil => exact h
  | both hv _ ih => exact ih (h.both hv)
  | left hm _ ih => exact ih (h.left hm)
  | right hm _ ih => exact ih (h.symm.left hm).symm

end Shown
end Sections
end Timelines.Settings.Node
