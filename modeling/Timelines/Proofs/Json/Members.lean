import Mathlib.Data.List.Nodup
import Mathlib.Data.List.Pairwise
import Timelines.Proofs.Json.Record
import Timelines.Proofs.Json.Texts

/-! What a record is read from is its known members, each of them once.

`Apart.fits`: a record whose fields are read apart from each other reads the same from an object
whose members are put in another order or joined by unknown ones, and nothing from one in which a
known member comes twice, a required one is missing or a name is no text. What holds of the record
holds of records in its members.

The members of an object are met one by one (`Meets`). Two of them can change places, which puts any
member first. -/
namespace Timelines.Json
open Grammar

/-- What a reader knows of a value: the names of members, whether each of them is required, and what
is known of its value. -/
inductive Shape
  | value
  | record (known : List (String × Bool × Shape))

/-- Changes that are nothing to a reader of the shape. -/
inductive Alike : Shape → Doc → Doc → Prop
  | same (shape : Shape) (d : Doc) : Alike shape d d
  | trans {shape : Shape} {d d' d'' : Doc} : Alike shape d d' → Alike shape d' d'' →
      Alike shape d d''
  | order {known : List (String × Bool × Shape)} {members members' : List Entry} :
      members.Perm members' →
      Alike (.record known) (.object members none) (.object members' none)
  | more {known : List (String × Bool × Shape)} (front behind : List Entry) {key text : String}
      {d : Doc} : key ∉ known.map (·.1) → Spells text d →
      Alike (.record known) (.object (front ++ behind) none)
        (.object (front ++ (.ok key, d) :: behind) none)
  | within {known : List (String × Bool × Shape)} (front behind : List Entry) {name : String}
      {required : Bool} {shape : Shape} {d d' : Doc} : (name, required, shape) ∈ known →
      Alike shape d d' →
      Alike (.record known) (.object (front ++ (.ok name, d) :: behind) none)
        (.object (front ++ (.ok name, d') :: behind) none)

/-- Changes after which there is nothing to read: a known member twice, a required one left out, or
a member more whose name is no text. -/
inductive Spoilt : Shape → Doc → Doc → Prop
  | again {known : List (String × Bool × Shape)} (front behind : List Entry) {name : String}
      {required : Bool} {shape : Shape} {d d' : Doc} : (name, required, shape) ∈ known →
      (.ok name, d) ∈ front ++ behind →
      Spoilt (.record known) (.object (front ++ behind) none)
        (.object (front ++ (.ok name, d') :: behind) none)
  | without {known : List (String × Bool × Shape)} (front behind : List Entry) {name : String}
      {shape : Shape} {d : Doc} : (name, true, shape) ∈ known →
      Spoilt (.record known) (.object (front ++ (.ok name, d) :: behind) none)
        (.object (front ++ behind) none)
  | nameless {known : List (String × Bool × Shape)} (front behind : List Entry) (f : Fault)
      (d : Doc) :
      Spoilt (.record known) (.object (front ++ behind) none)
        (.object (front ++ (.error f, d) :: behind) none)
  | within {known : List (String × Bool × Shape)} (front behind : List Entry) {name : String}
      {required : Bool} {shape : Shape} {d d' : Doc} : (name, required, shape) ∈ known →
      Spoilt shape d d' →
      Spoilt (.record known) (.object (front ++ (.ok name, d) :: behind) none)
        (.object (front ++ (.ok name, d') :: behind) none)

/-- A reader goes by a shape. -/
structure Fits {α : Type} (read : Doc → Except Fault α) (shape : Shape) : Prop where
  unbroken {d : Doc} {a : α} (h : read d = .ok a) : d.breaks = none
  alike {d d' : Doc} {a : α} (h : read d = .ok a) (hd : Alike shape d d') : read d' = .ok a
  spoilt {d d' : Doc} {a : α} (h : read d = .ok a) (hd : Spoilt shape d d') (b : α) :
    read d' ≠ .ok b

variable {σ α β : Type}

/-! ### Values without known members -/

theorem Alike.eq_of_value {d d' : Doc} (h : Alike .value d d') : d = d' := by
  generalize hshape : Shape.value = shape at h
  induction h with
  | same => rfl
  | trans _ _ ih ih' => exact (ih hshape).trans (ih' hshape)
  | order | more | within => cases hshape

theorem fits_value {read : Doc → Except Fault α}
    (h : ∀ {d : Doc} {a : α}, read d = .ok a → d.breaks = none) : Fits read .value where
  unbroken := h
  alike h hd := hd.eq_of_value ▸ h
  spoilt _ hd := nomatch hd

/-- What is made of a value goes by the shape of the value. -/
theorem Fits.map {read : Doc → Except Fault α} {shape : Shape} (h : Fits read shape)
    (f : α → β) : Fits (fun d => do return f (← read d)) shape where
  unbroken hread := by
    obtain ⟨a, ha, -⟩ := exists_of_read hread
    exact h.unbroken ha
  alike hread hd := by
    obtain ⟨a, ha, rfl⟩ := exists_of_read hread
    rw [h.alike ha hd]
    rfl
  spoilt hread hd b hb := by
    obtain ⟨a, ha, -⟩ := exists_of_read hread
    obtain ⟨a', ha', -⟩ := exists_of_read hb
    exact h.spoilt ha hd a' ha'

/-! ### Members one by one -/

section Meeting
variable {fields : List (RecordField σ)} {m m' : Entry} {members members' : List Entry}
  {s s' s₁ s₂ : σ}

/-- What a member does to what was read before it. -/
inductive Meets (fields : List (RecordField σ)) : Entry → σ → σ → Prop
  | unknown {key : String} {d : Doc} {s : σ} : key ∉ fields.map (·.name) → d.skip = .ok () →
      Meets fields (.ok key, d) s s
  | known {f : RecordField σ} {d : Doc} {s s' : σ} : f ∈ fields → f.filled s = false →
      f.read d s = .ok s' → Meets fields (.ok f.name, d) s s'

/-- Fields of different names are read apart from each other: reading one fills it and no other, and
two can be read in either order. -/
structure Apart (fields : List (RecordField σ)) : Prop where
  nodup : (fields.map (·.name)).Nodup
  fills {f : RecordField σ} (hf : f ∈ fields) {d : Doc} {s s' : σ} (h : f.read d s = .ok s') :
    f.filled s' = true
  keeps {f g : RecordField σ} (hf : f ∈ fields) (hg : g ∈ fields) (hne : f.name ≠ g.name)
    {d : Doc} {s s' : σ} (h : f.read d s = .ok s') : g.filled s' = g.filled s
  commutes {f g : RecordField σ} (hf : f ∈ fields) (hg : g ∈ fields) (hne : f.name ≠ g.name)
    {d d' : Doc} {s s₁ s₂ : σ} (h : f.read d s = .ok s₁) (h' : g.read d' s₁ = .ok s₂) :
    ∃ s₃, g.read d' s = .ok s₃ ∧ f.read d s₃ = .ok s₂

theorem Apart.eq_of_name (h : Apart fields) {f g : RecordField σ} (hf : f ∈ fields)
    (hg : g ∈ fields) (hname : f.name = g.name) : f = g :=
  List.inj_on_of_nodup_map h.nodup hf hg hname

theorem Apart.find? (h : Apart fields) {f : RecordField σ} (hf : f ∈ fields) :
    fields.find? (·.name == f.name) = some f := by
  cases hfind : fields.find? (·.name == f.name) with
  | none => exact absurd (List.find?_eq_none.mp hfind f hf) (by simp)
  | some g =>
    have hname : g.name = f.name := by simpa using List.find?_some hfind
    rw [h.eq_of_name (List.mem_of_find?_eq_some hfind) hf hname]

theorem find?_eq_none_iff {key : String} :
    fields.find? (·.name == key) = none ↔ key ∉ fields.map (·.name) := by
  simp [List.find?_eq_none]

/-- Members are met in order. -/
theorem Apart.fillMembers_cons (h : Apart fields) :
    fillMembers fields (m :: members) s = .ok s' ↔
      ∃ s₁, Meets fields m s s₁ ∧ fillMembers fields members s₁ = .ok s' := by
  constructor
  · intro h'
    obtain ⟨key, d⟩ := m
    obtain ⟨key, rfl, hfill⟩ := exists_of_bind h'
    split at hfill
    next f hfind =>
      split at hfill
      next => cases hfill
      next hfilled =>
        obtain ⟨s₁, hread, hfill⟩ := exists_of_bind hfill
        have hname : f.name = key := by simpa using List.find?_some hfind
        subst hname
        exact ⟨s₁, .known (List.mem_of_find?_eq_some hfind) (by simpa using hfilled) hread, hfill⟩
    next hfind =>
      obtain ⟨⟨⟩, hskip, hfill⟩ := exists_of_bind hfill
      exact ⟨s, .unknown (find?_eq_none_iff.mp hfind) hskip, hfill⟩
  · rintro ⟨s₁, hmeets, hfill⟩
    cases hmeets with
    | unknown hkey hskip =>
      simp only [fillMembers, bind, Except.bind, find?_eq_none_iff.mpr hkey, hskip]
      exact hfill
    | known hf hfilled hread =>
      simp only [fillMembers, bind, Except.bind, h.find? hf, hfilled, hread]
      exact hfill

theorem Apart.fillMembers_append (h : Apart fields) :
    fillMembers fields (members ++ members') s = .ok s' ↔
      ∃ s₁, fillMembers fields members s = .ok s₁ ∧ fillMembers fields members' s₁ = .ok s' := by
  induction members generalizing s with
  | nil => exact ⟨fun hfill => ⟨s, rfl, hfill⟩, by rintro ⟨_, ⟨⟩, hfill⟩; exact hfill⟩
  | cons m members ih =>
    simp only [List.cons_append, h.fillMembers_cons, ih]
    constructor
    · rintro ⟨s₁, hm, s₂, hs, hs'⟩
      exact ⟨s₂, ⟨s₁, hm, hs⟩, hs'⟩
    · rintro ⟨s₂, ⟨s₁, hm, hs⟩, hs'⟩
      exact ⟨s₁, hm, s₂, hs, hs'⟩

/-- Two members can be met in either order. -/
theorem Apart.swap (h : Apart fields) (hm : Meets fields m s s₁) (hm' : Meets fields m' s₁ s₂) :
    ∃ s₃, Meets fields m' s s₃ ∧ Meets fields m s₃ s₂ := by
  cases hm with
  | unknown hkey hskip => exact ⟨s₂, hm', .unknown hkey hskip⟩
  | @known f _ _ _ hf hfilled hread =>
    cases hm' with
    | unknown hkey hskip => exact ⟨s, .unknown hkey hskip, .known hf hfilled hread⟩
    | @known g _ _ _ hg hfilled' hread' =>
      by_cases hname : f.name = g.name
      · -- The second would find its field filled by the first.
        rw [← h.eq_of_name hf hg hname, h.fills hf hread] at hfilled'
        cases hfilled'
      · obtain ⟨s₃, hg₃, hf₃⟩ := h.commutes hf hg hname hread hread'
        refine ⟨s₃, .known hg ?_ hg₃, .known hf ?_ hf₃⟩
        · rw [← h.keeps hf hg hname hread, hfilled']
        · rw [h.keeps hg hf (Ne.symm hname) hg₃, hfilled]

/-- Members are read the same in any order. -/
theorem Apart.fillMembers_perm (h : Apart fields) (hperm : members.Perm members')
    (hfill : fillMembers fields members s = .ok s') : fillMembers fields members' s = .ok s' := by
  induction hperm generalizing s with
  | nil => exact hfill
  | cons m _ ih =>
    obtain ⟨s₁, hm, hrest⟩ := h.fillMembers_cons.mp hfill
    exact h.fillMembers_cons.mpr ⟨s₁, hm, ih hrest⟩
  | swap m m' members =>
    obtain ⟨s₁, hm', hrest⟩ := h.fillMembers_cons.mp hfill
    obtain ⟨s₂, hm, hrest⟩ := h.fillMembers_cons.mp hrest
    obtain ⟨s₃, hm₃, hm'₃⟩ := h.swap hm' hm
    exact h.fillMembers_cons.mpr ⟨s₃, hm₃, h.fillMembers_cons.mpr ⟨s₂, hm'₃, hrest⟩⟩
  | trans _ _ ih ih' => exact ih' (ih hfill)

theorem Apart.exists_known (h : Apart fields) {f : RecordField σ} (hf : f ∈ fields) {d : Doc}
    (hm : Meets fields (.ok f.name, d) s s') : f.filled s = false ∧ f.read d s = .ok s' := by
  generalize hkey : f.name = key at hm
  cases hm with
  | unknown hunknown => exact absurd (hkey ▸ List.mem_map_of_mem hf) hunknown
  | known hg hfilled hread =>
    cases h.eq_of_name hf hg hkey
    exact ⟨hfilled, hread⟩

/-- No member of a known name comes twice. -/
theorem Apart.not_again (h : Apart fields) {f : RecordField σ} (hf : f ∈ fields) {d d' : Doc}
    (hmem : (.ok f.name, d) ∈ members) :
    fillMembers fields ((.ok f.name, d') :: members) s ≠ .ok s' := by
  intro hfill
  obtain ⟨front, behind, rfl⟩ := List.append_of_mem hmem
  obtain ⟨s₁, hm', hrest⟩ := h.fillMembers_cons.mp hfill
  obtain ⟨s₂, hm, -⟩ := h.fillMembers_cons.mp (h.fillMembers_perm List.perm_middle hrest)
  have hfilled := h.fills hf (h.exists_known hf hm').2
  rw [(h.exists_known hf hm).1] at hfilled
  cases hfilled

/-- A field is filled by a member of its name only. -/
theorem Apart.filled_eq (h : Apart fields) {f : RecordField σ} (hf : f ∈ fields)
    (hnone : ∀ d, (.ok f.name, d) ∉ members) (hfill : fillMembers fields members s = .ok s') :
    f.filled s' = f.filled s := by
  induction members generalizing s with
  | nil =>
    cases hfill
    rfl
  | cons m members ih =>
    obtain ⟨s₁, hm, hrest⟩ := h.fillMembers_cons.mp hfill
    rw [ih (fun d hd => hnone d (List.mem_cons_of_mem m hd)) hrest]
    cases hm with
    | unknown => rfl
    | known hg _ hread =>
      refine h.keeps hg hf (fun hname => ?_) hread
      rw [hname] at hnone
      exact hnone _ List.mem_cons_self

/-- Members of unknown names are passed over wherever they are met. -/
theorem Apart.fillMembers_unknown (h : Apart fields)
    (hnone : ∀ f ∈ fields, ∀ d, (.ok f.name, d) ∉ members)
    (hfill : fillMembers fields members s = .ok s') (t : σ) :
    fillMembers fields members t = .ok t := by
  induction members generalizing s with
  | nil => rfl
  | cons m members ih =>
    obtain ⟨s₁, hm, hrest⟩ := h.fillMembers_cons.mp hfill
    have ht := ih (fun f hf d hd => hnone f hf d (List.mem_cons_of_mem m hd)) hrest
    cases hm with
    | unknown hkey hskip => exact h.fillMembers_cons.mpr ⟨t, .unknown hkey hskip, ht⟩
    | known hf => exact absurd List.mem_cons_self (hnone _ hf _)

end Meeting

/-! ### Records -/

section Records
variable {fields : List (RecordField σ)} {start : σ} {finish : σ → Option α}

theorem readRecord_object {members : List Entry} {a : α} :
    readRecord fields start finish (.object members none) = .ok a ↔
      ∃ s, fillMembers fields members start = .ok s ∧ finish s = some a := by
  constructor
  · intro h
    obtain ⟨s, hs, h⟩ := exists_of_bind h
    cases ha : finish s with
    | none => simp [ha, Doc.readEnding, bind, Except.bind] at h
    | some b =>
      simp only [ha] at h
      cases h
      exact ⟨s, hs, ha⟩
  · rintro ⟨s, hs, ha⟩
    simp only [readRecord, bind, Except.bind, hs, ha]
    rfl

/-- Nothing is read from what breaks off. -/
theorem unbroken_readRecord {d : Doc} {a : α} (h : readRecord fields start finish d = .ok a) :
    d.breaks = none := by
  unfold readRecord at h
  split at h
  next members ending =>
    obtain ⟨s, -, h⟩ := exists_of_bind h
    obtain ⟨⟨⟩, hending, -⟩ := exists_of_bind h
    cases ending with
    | none => rfl
    | some b => cases hending
  next items ending =>
    cases ending with
    | none => rfl
    | some b =>
      obtain ⟨r, -, h⟩ := exists_of_bind h
      simp only [Doc.readEnding, bind, Except.bind] at h
      repeat' split at h
      all_goals cases h
  next => cases h

/-- The shape that a record goes by: its fields, and which of them it cannot be without. -/
structure Describes (known : List (String × Bool × Shape)) (fields : List (RecordField σ))
    (start : σ) (finish : σ → Option α) : Prop where
  names : known.map (·.1) = fields.map (·.name)
  empty {f : RecordField σ} (hf : f ∈ fields) : f.filled start = false
  fits {f : RecordField σ} (hf : f ∈ fields) {required : Bool} {shape : Shape}
    (hknown : (f.name, required, shape) ∈ known) (s : σ) : Fits (f.read · s) shape
  required {f : RecordField σ} (hf : f ∈ fields) {shape : Shape}
    (hknown : (f.name, true, shape) ∈ known) {s : σ} {a : α} (h : finish s = some a) :
    f.filled s = true

variable {known : List (String × Bool × Shape)}

theorem Describes.exists_field (h : Describes known fields start finish) {name : String}
    {required : Bool} {shape : Shape} (hknown : (name, required, shape) ∈ known) :
    ∃ f ∈ fields, f.name = name := by
  have hname : name ∈ fields.map (·.name) := h.names ▸ List.mem_map_of_mem hknown
  exact List.mem_map.mp hname

theorem Describes.alike (h : Describes known fields start finish) (hapart : Apart fields)
    {d d' : Doc} {a : α} (hread : readRecord fields start finish d = .ok a)
    (hd : Alike (.record known) d d') : readRecord fields start finish d' = .ok a := by
  generalize hshape : Shape.record known = shape at hd
  induction hd with
  | same => exact hread
  | trans _ _ ih ih' => exact ih' (ih hread hshape) hshape
  | order hperm =>
    obtain ⟨s, hs, ha⟩ := readRecord_object.mp hread
    exact readRecord_object.mpr ⟨s, hapart.fillMembers_perm hperm hs, ha⟩
  | more front behind hkey hvalue =>
    cases hshape
    obtain ⟨s, hs, ha⟩ := readRecord_object.mp hread
    obtain ⟨s₁, hfront, hbehind⟩ := hapart.fillMembers_append.mp hs
    have hmeets : Meets fields _ s₁ s₁ := .unknown (h.names ▸ hkey) (skip_of_spaced hvalue)
    exact readRecord_object.mpr ⟨s, hapart.fillMembers_append.mpr
      ⟨s₁, hfront, hapart.fillMembers_cons.mpr ⟨s₁, hmeets, hbehind⟩⟩, ha⟩
  | within front behind hknown hd =>
    cases hshape
    obtain ⟨f, hf, rfl⟩ := h.exists_field hknown
    obtain ⟨s, hs, ha⟩ := readRecord_object.mp hread
    obtain ⟨s₁, hfront, hs⟩ := hapart.fillMembers_append.mp hs
    obtain ⟨s₂, hmeets, hbehind⟩ := hapart.fillMembers_cons.mp hs
    obtain ⟨hfilled, hvalue⟩ := hapart.exists_known hf hmeets
    have hmeets' := Meets.known hf hfilled ((h.fits hf hknown s₁).alike hvalue hd)
    exact readRecord_object.mpr ⟨s, hapart.fillMembers_append.mpr
      ⟨s₁, hfront, hapart.fillMembers_cons.mpr ⟨s₂, hmeets', hbehind⟩⟩, ha⟩

theorem Describes.spoilt (h : Describes known fields start finish) (hapart : Apart fields)
    {d d' : Doc} {a : α} (hread : readRecord fields start finish d = .ok a)
    (hd : Spoilt (.record known) d d') (b : α) : readRecord fields start finish d' ≠ .ok b := by
  intro hread'
  cases hd with
  | again front behind hknown hmem =>
    obtain ⟨f, hf, rfl⟩ := h.exists_field hknown
    obtain ⟨s', hs', -⟩ := readRecord_object.mp hread'
    exact hapart.not_again hf hmem (hapart.fillMembers_perm List.perm_middle hs')
  | without front behind hknown =>
    obtain ⟨f, hf, rfl⟩ := h.exists_field hknown
    obtain ⟨s, hs, -⟩ := readRecord_object.mp hread
    obtain ⟨s', hs', hb⟩ := readRecord_object.mp hread'
    -- The member that was left out was the only one of its name.
    have hnone (d : Doc) : (.ok f.name, d) ∉ front ++ behind := fun hmem =>
      hapart.not_again hf hmem (hapart.fillMembers_perm List.perm_middle hs)
    have hfilled := h.required hf hknown hb
    rw [hapart.filled_eq hf hnone hs', h.empty hf] at hfilled
    cases hfilled
  | nameless front behind =>
    obtain ⟨s', hs', -⟩ := readRecord_object.mp hread'
    obtain ⟨s₁, -, hs'⟩ := hapart.fillMembers_append.mp hs'
    obtain ⟨s₂, hmeets, -⟩ := hapart.fillMembers_cons.mp hs'
    cases hmeets
  | within front behind hknown hd =>
    obtain ⟨f, hf, rfl⟩ := h.exists_field hknown
    obtain ⟨s, hs, -⟩ := readRecord_object.mp hread
    obtain ⟨s', hs', -⟩ := readRecord_object.mp hread'
    obtain ⟨s₁, hfront, hs⟩ := hapart.fillMembers_append.mp hs
    obtain ⟨s₁', hfront', hs'⟩ := hapart.fillMembers_append.mp hs'
    cases hfront.symm.trans hfront'
    obtain ⟨s₂, hmeets, -⟩ := hapart.fillMembers_cons.mp hs
    obtain ⟨s₂', hmeets', -⟩ := hapart.fillMembers_cons.mp hs'
    exact (h.fits hf hknown s₁).spoilt (hapart.exists_known hf hmeets).2 hd s₂'
      (hapart.exists_known hf hmeets').2

/-- **A record goes by its known members.** -/
theorem Apart.fits (hapart : Apart fields) (h : Describes known fields start finish) :
    Fits (readRecord fields start finish) (.record known) where
  unbroken := unbroken_readRecord
  alike := h.alike hapart
  spoilt := h.spoilt hapart

end Records

/-! ### Places

The fields of the records that are read each have a place of their own in what was read so far. -/

/-- A place, with the member that it is for. -/
structure Place (σ : Type) where
  Content : Type
  name : String
  required : Bool
  shape : Shape
  read : Doc → Except Fault Content
  get : σ → Option Content
  put : σ → Content → σ

namespace Place

def field (p : Place σ) : RecordField σ :=
  ⟨p.name, fun s => (p.get s).isSome, fun d s => do return p.put s (← p.read d)⟩

def known (p : Place σ) : String × Bool × Shape := (p.name, p.required, p.shape)

/-- Two places do not meet. -/
structure Apart (p q : Place σ) : Prop where
  names : p.name ≠ q.name
  left (s : σ) (b : q.Content) : p.get (q.put s b) = p.get s
  right (s : σ) (a : p.Content) : q.get (p.put s a) = q.get s
  commute (s : σ) (a : p.Content) (b : q.Content) : q.put (p.put s a) b = p.put (q.put s b) a

instance : Std.Symm (@Apart σ) where
  symm _ _ h :=
    { names := h.names.symm
      left := h.right
      right := h.left
      commute := fun s b a => (h.commute s a b).symm }

/-- Places that a record is read into. -/
structure Lawful (places : List (Place σ)) (start : σ) (finish : σ → Option α) : Prop where
  apart : places.Pairwise Apart
  own {p : Place σ} (hp : p ∈ places) (s : σ) (a : p.Content) : (p.get (p.put s a)).isSome = true
  empty {p : Place σ} (hp : p ∈ places) : p.get start = none
  fits {p : Place σ} (hp : p ∈ places) : Fits p.read p.shape
  required {p : Place σ} (hp : p ∈ places) (hrequired : p.required = true) {s : σ} {a : α}
    (h : finish s = some a) : (p.get s).isSome = true

variable {places : List (Place σ)} {start : σ} {finish : σ → Option α}

theorem Lawful.nodup (h : Lawful places start finish) : (places.map (·.name)).Nodup :=
  List.pairwise_map.mpr (h.apart.imp Apart.names)

theorem Lawful.apart_of_name (h : Lawful places start finish) {p q : Place σ} (hp : p ∈ places)
    (hq : q ∈ places) (hname : p.name ≠ q.name) : Apart p q :=
  h.apart.forall hp hq fun heq => hname (congrArg Place.name heq)

theorem Lawful.apart_fields (h : Lawful places start finish) :
    Json.Apart (places.map field) where
  nodup := by
    rw [List.map_map]
    exact h.nodup
  fills hf _ _ _ hread := by
    obtain ⟨p, hp, rfl⟩ := List.mem_map.mp hf
    obtain ⟨a, -, rfl⟩ := exists_of_read hread
    exact h.own hp _ a
  keeps hf hg hname _ _ _ hread := by
    obtain ⟨p, hp, rfl⟩ := List.mem_map.mp hf
    obtain ⟨q, hq, rfl⟩ := List.mem_map.mp hg
    obtain ⟨a, -, rfl⟩ := exists_of_read hread
    exact congrArg Option.isSome ((h.apart_of_name hp hq hname).right _ a)
  commutes hf hg hname d d' s _ _ hread hread' := by
    obtain ⟨p, hp, rfl⟩ := List.mem_map.mp hf
    obtain ⟨q, hq, rfl⟩ := List.mem_map.mp hg
    obtain ⟨a, ha, rfl⟩ := exists_of_read hread
    obtain ⟨b, hb, rfl⟩ := exists_of_read hread'
    refine ⟨q.put s b, ?_, ?_⟩
    · simp only [field, hb]
      rfl
    · simp only [field, ha, (h.apart_of_name hp hq hname).commute s a b]
      rfl

theorem Lawful.eq_of_known (h : Lawful places start finish) {p : Place σ} (hp : p ∈ places)
    {required : Bool} {shape : Shape} (hknown : (p.name, required, shape) ∈ places.map known) :
    required = p.required ∧ shape = p.shape := by
  obtain ⟨q, hq, heq⟩ := List.mem_map.mp hknown
  simp only [known, Prod.mk.injEq] at heq
  obtain ⟨hname, rfl, rfl⟩ := heq
  cases List.inj_on_of_nodup_map h.nodup hq hp hname
  exact ⟨rfl, rfl⟩

theorem Lawful.describes (h : Lawful places start finish) :
    Describes (places.map known) (places.map field) start finish where
  names := by
    rw [List.map_map, List.map_map]
    rfl
  empty hf := by
    obtain ⟨p, hp, rfl⟩ := List.mem_map.mp hf
    exact congrArg Option.isSome (h.empty hp)
  fits hf _ _ hknown s := by
    obtain ⟨p, hp, rfl⟩ := List.mem_map.mp hf
    obtain ⟨-, rfl⟩ := h.eq_of_known hp hknown
    exact (h.fits hp).map (p.put s)
  required hf _ hknown _ _ hfinish := by
    obtain ⟨p, hp, rfl⟩ := List.mem_map.mp hf
    exact h.required hp (h.eq_of_known hp hknown).1.symm hfinish

/-- **A record goes by its known members**, those that its places are for. -/
theorem Lawful.fits_readRecord (h : Lawful places start finish) :
    Fits (readRecord (places.map field) start finish) (.record (places.map known)) :=
  h.apart_fields.fits h.describes

end Place
end Timelines.Json
