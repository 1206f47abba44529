import Timelines.Proofs.Json.Members
import Timelines.Proofs.Post.Wire

/-! What is read from the wire depends on the known members alone.

`wire_by_members`: posts, payloads, events and lists of followers are read the same from every text
of a document that differs from one they are read from in white space, in the order of members and
in members of unknown names, also within the payload of an event. Nothing is read where a known
member comes twice or is missing; only the list of followers may be left out.

Each codec reads a record of places that do not meet, the event's with a record in one of them. -/
namespace Timelines
open Json Json.Grammar

/-- A codec goes by the members of a shape, whatever the text. -/
structure Codec.ByMembers {α : Type} (C : Codec α) (shape : Shape) : Prop where
  spells {text : String} {a : α} (h : C.decode text = .ok a) : ∃ d, Spells text d
  alike {text text' : String} {d d' : Doc} {a : α} (h : C.decode text = .ok a)
    (hd : Spells text d) (halike : Alike shape d d') (hd' : Spells text' d') :
    C.decode text' = .ok a
  spoilt {text text' : String} {d d' : Doc} {a : α} (h : C.decode text = .ok a)
    (hd : Spells text d) (hspoilt : Spoilt shape d d') (hd' : Spells text' d') :
    ∃ f, C.decode text' = .error f

/-- What holds of documents holds of their texts. -/
theorem Json.Fits.byMembers {α : Type} {C : Codec α} {shape : Shape} (h : Fits C.read shape) :
    C.ByMembers shape where
  spells hread := by
    obtain ⟨d, hd, -⟩ := spells_of_decode (fun _ _ => h.unbroken) hread
    exact ⟨d, hd⟩
  alike hread hd halike hd' := by
    rw [Codec.decode, decode_of_spells hd] at hread
    rw [Codec.decode, decode_of_spells hd']
    exact h.alike hread halike
  spoilt {_ text' _ d' _} hread hd hspoilt hd' := by
    rw [Codec.decode, decode_of_spells hd] at hread
    cases hread' : C.decode text' with
    | error f => exact ⟨f, rfl⟩
    | ok b =>
      rw [Codec.decode, decode_of_spells hd'] at hread'
      exact absurd hread' (h.spoilt hread hspoilt b)

/-! ### What the members hold -/

namespace Json.Doc
variable {α : Type} {d : Doc}

theorem unbroken_readString {s : String} (h : readString d = .ok s) : d.breaks = none := by
  cases d with
  | string => rfl
  | _ => cases h

theorem unbroken_readParsed {parse : String → Option α} {a : α} (h : readParsed parse d = .ok a) :
    d.breaks = none := by
  obtain ⟨s, hs, -⟩ := exists_of_bind h
  exact unbroken_readString hs

theorem unbroken_readList {read : Doc → Except Fault α} {as : List α}
    (h : readList read d = .ok as) : d.breaks = none := by
  cases d with
  | array items ending =>
    obtain ⟨values, -, h⟩ := exists_of_bind h
    obtain ⟨⟨⟩, hending, -⟩ := exists_of_bind h
    cases ending with
    | none => rfl
    | some b => cases hending
  | _ => cases h

end Json.Doc

/-! ### The four records -/

namespace Payload

def places : List (Place Parts) :=
  [⟨Uuid, "id", true, .value, Doc.readUuid, (·.id), fun s a => { s with id := some a }⟩,
    ⟨String, "author_id", true, .value, Doc.readString, (·.author),
      fun s a => { s with author := some a }⟩,
    ⟨String, "content", true, .value, Doc.readString, (·.content),
      fun s a => { s with content := some a }⟩,
    ⟨Moment, "created_at", true, .value, Doc.readMoment, (·.createdAt),
      fun s a => { s with createdAt := some a }⟩]

/-- The four members of a payload, which all have to be there. -/
def shape : Shape :=
  .record [("id", true, .value), ("author_id", true, .value), ("content", true, .value),
    ("created_at", true, .value)]

theorem lawful_places : Place.Lawful places ⟨none, none, none, none⟩ Parts.finish where
  apart := by
    simp only [places, List.pairwise_cons, List.mem_cons, List.not_mem_nil, or_false,
      forall_eq_or_imp, forall_eq, false_imp_iff, implies_true, List.Pairwise.nil, and_true]
    and_intros
    all_goals exact ⟨by decide, fun _ _ => rfl, fun _ _ => rfl, fun _ _ _ => rfl⟩
  own := by simp [places]
  empty := by simp [places]
  fits hp := by
    simp only [places, List.mem_cons, List.not_mem_nil, or_false] at hp
    obtain rfl | rfl | rfl | rfl := hp
    case inl | inr.inr.inr => exact fits_value Doc.unbroken_readParsed
    all_goals exact fits_value Doc.unbroken_readString
  required hp _ s a h := by
    obtain ⟨id, author, content, createdAt⟩ := s
    simp only [Parts.finish, Option.bind_eq_bind, Option.bind_eq_some_iff] at h
    obtain ⟨_, rfl, _, rfl, _, rfl, _, rfl, -⟩ := h
    simp only [places, List.mem_cons, List.not_mem_nil, or_false] at hp
    obtain rfl | rfl | rfl | rfl := hp <;> rfl

theorem fits_read : Fits read shape := lawful_places.fits_readRecord

end Payload

theorem Post.fits_read : Fits read Payload.shape := Payload.fits_read.map Payload.toPost

namespace Event

def places : List (Place Parts) :=
  [⟨String, "kind", true, .value, Doc.readString, (·.kind), fun s a => { s with kind := some a }⟩,
    ⟨Uuid, "correlation_id", true, .value, Doc.readUuid, (·.correlation),
      fun s a => { s with correlation := some a }⟩,
    ⟨Payload, "post", true, Payload.shape, Payload.read, (·.post),
      fun s a => { s with post := some a }⟩]

/-- The three members of an event, of which the last is a payload. -/
def shape : Shape :=
  .record [("kind", true, .value), ("correlation_id", true, .value), ("post", true, Payload.shape)]

theorem lawful_places : Place.Lawful places ⟨none, none, none⟩ Parts.finish where
  apart := by
    simp only [places, List.pairwise_cons, List.mem_cons, List.not_mem_nil, or_false,
      forall_eq_or_imp, forall_eq, false_imp_iff, implies_true, List.Pairwise.nil, and_true]
    and_intros
    all_goals exact ⟨by decide, fun _ _ => rfl, fun _ _ => rfl, fun _ _ _ => rfl⟩
  own := by simp [places]
  empty := by simp [places]
  fits hp := by
    simp only [places, List.mem_cons, List.not_mem_nil, or_false] at hp
    obtain rfl | rfl | rfl := hp
    · exact fits_value Doc.unbroken_readString
    · exact fits_value Doc.unbroken_readParsed
    · exact Payload.fits_read
  required hp _ s a h := by
    obtain ⟨kind, correlation, post⟩ := s
    simp only [Parts.finish, Option.bind_eq_bind, Option.bind_eq_some_iff] at h
    obtain ⟨_, rfl, _, rfl, _, rfl, -⟩ := h
    simp only [places, List.mem_cons, List.not_mem_nil, or_false] at hp
    obtain rfl | rfl | rfl := hp <;> rfl

theorem fits_read : Fits read shape := lawful_places.fits_readRecord

end Event

namespace Followers

def places : List (Place (Option (List String))) :=
  [⟨List String, "followers", false, .value, Doc.readList Doc.readString, id, fun _ a => some a⟩]

/-- The one member of a list of followers, which can be missing. -/
def shape : Shape := .record [("followers", false, .value)]

theorem lawful_places :
    Place.Lawful places none fun users => some (⟨users.getD []⟩ : Followers) where
  apart := List.pairwise_singleton ..
  own := by simp [places]
  empty := by simp [places]
  fits hp := by
    obtain rfl := List.mem_singleton.mp hp
    exact fits_value Doc.unbroken_readList
  required hp hrequired := by
    obtain rfl := List.mem_singleton.mp hp
    cases hrequired

theorem fits_read : Fits read shape := lawful_places.fits_readRecord

/-- A list of followers that is left out is empty. -/
theorem decode_of_left_out {text text' : String} {front behind : List Entry} {d : Doc}
    {f : Followers} (h : wire.decode text = .ok f)
    (hd : Spells text (.object (front ++ (.ok "followers", d) :: behind) none))
    (hd' : Spells text' (.object (front ++ behind) none)) : wire.decode text' = .ok ⟨[]⟩ := by
  replace h : Followers.read _ = .ok f := (decode_of_spells hd).symm.trans h
  have hapart : Json.Apart fields := lawful_places.apart_fields
  obtain ⟨s, hs, -⟩ := readRecord_object.mp h
  replace hs := hapart.fillMembers_perm List.perm_middle hs
  -- Its member was the only one of its name.
  have hnone : ∀ g ∈ fields, ∀ d', (.ok g.name, d') ∉ front ++ behind := by
    intro g hg d' hmem
    obtain rfl := List.mem_singleton.mp hg
    exact hapart.not_again hg hmem hs
  obtain ⟨s₁, -, hrest⟩ := hapart.fillMembers_cons.mp hs
  have hfill := hapart.fillMembers_unknown hnone hrest none
  have hread : Followers.read (.object (front ++ behind) none) = .ok ⟨[]⟩ :=
    readRecord_object.mpr ⟨none, hfill, rfl⟩
  exact (decode_of_spells hd').trans hread

end Followers

/-- **What is read from the wire depends on the known members alone.** Every text that is read
spells a document, and what is read of it is read of every text of a document like it. Texts of one
document, which differ in white space and in how strings and numbers are spelt, are the case of a
document that is the same. -/
theorem wire_by_members :
    Post.wire.ByMembers Payload.shape ∧ Payload.wire.ByMembers Payload.shape ∧
      Event.wire.ByMembers Event.shape ∧ Followers.wire.ByMembers Followers.shape :=
  ⟨Post.fits_read.byMembers, Payload.fits_read.byMembers, Event.fits_read.byMembers,
    Followers.fits_read.byMembers⟩

/-- An event is read the same when its payload comes first and has one more member. -/
theorem wire_by_members_of_nested :
    Event.wire.decode
        (Value.object
          [("post", .object [("tags", .array [.string "\\\x7d", .object [("id", .null)]]),
            ("id", .string (Uuid.ofNat 255).text), ("author_id", .string "alice"),
            ("content", .string "hi"), ("created_at", .string (Moment.text ⟨0, 0⟩))]),
          ("kind", .string Event.postCreated),
          ("correlation_id", .string (Uuid.ofNat 1).text)]).compact =
      .ok ⟨Event.postCreated, .ofNat 1, .ofNat 255, "alice", "hi", 0, 0⟩ := by
  let e : Event := ⟨Event.postCreated, .ofNat 1, .ofNat 255, "alice", "hi", 0, 0⟩
  have hread : Event.wire.decode e.toJson.compact = .ok e :=
    Event.lawful_wire.decode_encode (if_pos (by decide))
  have htags : (Value.array [.string "\\\x7d", .object [("id", .null)]]).Numberless :=
    .array (by simp [Value.Numberless.string, Value.Numberless.object, Value.Numberless.null])
  have hmore (members : List Entry) : Alike Payload.shape (.object members none)
      (.object ((.ok "tags", Value.toDoc _) :: members) none) :=
    .more [] members (by decide) htags.spells
  have hpost : ("post", true, Payload.shape) ∈ Event.places.map Place.known :=
    .tail _ (.tail _ (.head _))
  have horder {a b c : Entry} : [a, b, c].Perm [c, a, b] :=
    (List.perm_append_comm : ([a, b] ++ [c]).Perm ([c] ++ [a, b]))
  refine wire_by_members.2.2.1.alike hread (Event.lawful_wire.numberless e).spells
    (.trans (.within [_, _] [] hpost (hmore _)) (.order horder)) (Value.Numberless.spells ?_)
  refine .object (List.forall_mem_cons.mpr ⟨.object (List.forall_mem_cons.mpr ⟨htags, ?_⟩), ?_⟩)
  all_goals simp [Value.Numberless.string]

/-- A member more of a name that is not known can spoil a text: the name may be no text. -/
theorem unknown_not_always_passed_over :
    Followers.wire.decode "\x7b\x7d" = .ok ⟨[]⟩ ∧ Spells "\x7b\x7d" (.object [] none) ∧
      ∃ name d, name ≠ .ok "followers" ∧ Spells "0" d ∧
        Spells "\x7b\"\\ud800\":0\x7d" (.object [(name, d)] none) ∧
        Followers.wire.decode "\x7b\"\\ud800\":0\x7d" = .error .malformed := by
  have hempty : Spells "\x7b\x7d" (.object [] none) :=
    .mk (.nothing _) (.emptyObject (.nothing _)) (.nothing _)
  have hwhole (rest : List Char) : Whole ('0' :: rest) ['0'] rest :=
    ⟨⟨rfl, List.cons_ne_nil _ _, List.forall_mem_singleton.mpr rfl⟩,
      fun _ h => (List.cons.inj h).2.symm⟩
  have hzero (rest : List Char) : Spaced ('0' :: rest) (.number (.integer false 0)) rest :=
    .mk (.nothing _) (.number (.integer (hwhole rest))) (.nothing _)
  -- The name is half of a surrogate pair.
  have hunit (rest : List Char) : Unit ('d' :: '8' :: '0' :: '0' :: rest) 0xD800 rest :=
    ⟨['d', '8', '0', '0'], rfl, rfl, by decide⟩
  have hname (rest : List Char) :
      Letters ("\\ud800\"".toList ++ rest) (.error .malformed) rest :=
    .escape (.high (hunit _) (by decide) (.plain _ (by decide))) (.close rest)
  have hmember : Member "\"\\ud800\":0\x7d".toList
      (.error .malformed, .number (.integer false 0)) ['\x7d'] :=
    .mk (.nothing _) (hname _) (.nothing _) (hzero _)
  exact ⟨by decide +kernel, hempty, .error .malformed, _, by decide, hzero [],
    .mk (.nothing _) (.object (.last hmember)) (.nothing _), by decide +kernel⟩

end Timelines
