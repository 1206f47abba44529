import Timelines.Post.Wire
import Timelines.Proofs.Json.Record
import Timelines.Proofs.Json.RoundTrip
import Timelines.Proofs.Time.Rfc3339

/-! What crosses the wire.

`wire_round_trip`: a post, a payload, an event and a list of followers are each read from their text
as they were written; a text that is read as one of them has a canonical form, which is read and
written as itself; and the text of a post is the text of its payload, so that the post can be read
out of the event that announces it.

A way to write and read values is `Lawful` if it does so at the level of documents; texts follow
from that for all of them at once. -/
namespace Timelines
open Json

/-- How values of a type cross the wire: as what they are written, how they are read, and the
moments in them, which are all that may have no written form. -/
structure Codec (α : Type) where
  toJson : α → Value
  read : Doc → Except Fault α
  moments : α → List Moment

namespace Codec
variable {α : Type}

/-- The text of a value, if it has one. -/
def encode? (C : Codec α) (a : α) : Option String :=
  if (C.moments a).all Moment.writable then some (C.toJson a).compact else none

def decode (C : Codec α) (text : String) : Except Fault α := Json.decode C.read text

/-- What is written is read as it was, and what is read can be written. -/
structure Lawful (C : Codec α) : Prop where
  numberless (a : α) : (C.toJson a).Numberless
  read_toJson {a : α} (h : (C.moments a).all Moment.writable = true) :
    C.read (C.toJson a).toDoc = .ok a
  writable_of_read {d : Doc} {a : α} (h : C.read d = .ok a) :
    (C.moments a).all Moment.writable = true

/-- The text of a value is read as the value. -/
theorem Lawful.decode_encode {C : Codec α} (h : C.Lawful) {a : α} {t : String}
    (ht : C.encode? a = some t) : C.decode t = .ok a := by
  unfold encode? at ht
  split at ht
  next hw =>
    cases ht
    rw [decode, (h.numberless a).decode_compact, h.read_toJson hw]
  next => cases ht

/-- Whatever is read has a text. -/
theorem Lawful.encode_decode {C : Codec α} (h : C.Lawful) {s : String} {a : α}
    (hs : C.decode s = .ok a) : ∃ t, C.encode? a = some t := by
  refine ⟨_, if_pos (h.writable_of_read (d := (Doc.parse s).1) ?_)⟩
  simp only [decode, Json.decode, bind, Except.bind] at hs
  split at hs
  next => cases hs
  next hd =>
    split at hs
    next =>
      cases hs
      exact hd
    next => cases hs

end Codec

/-! ### The four codecs -/

namespace Json.Doc

@[simp] theorem readUuid_text (u : Uuid) : readUuid (.string (.ok u.text)) = .ok u := by
  simp [readUuid, readParsed, readString, bind, Except.bind, pure, Except.pure]

theorem readMoment_text {m : Moment} (h : m.writable = true) :
    readMoment (.string (.ok m.text)) = .ok m := by
  simp only [readMoment, readParsed, readString, bind, Except.bind, Moment.parse?_text h]
  rfl

theorem writable_of_readMoment {d : Doc} {m : Moment} (h : readMoment d = .ok m) :
    m.writable = true := by
  simp only [readMoment, readParsed, bind, Except.bind] at h
  split at h
  next => cases h
  next s hs =>
    split at h
    next m' hm =>
      cases h
      exact Moment.writable_of_parse? hm
    next => cases h

theorem readList_strings (users : List String) :
    readList readString (.array (Value.toDocs (users.map .string)) none) = .ok users := by
  have hitems : readItems readString (Value.toDocs (users.map .string)) = .ok users := by
    induction users with
    | nil => rfl
    | cons u users ih =>
      simp [Value.toDocs, Value.toDoc, readItems, readString, ih, bind, Except.bind, pure,
        Except.pure]
  simp [readList, hitems, readEnding, bind, Except.bind, pure, Except.pure]

end Json.Doc

namespace Payload

def wire : Codec Payload := ⟨toJson, read, fun p => [p.createdAt]⟩

theorem read_toJson {p : Payload} (h : p.createdAt.writable = true) :
    read p.toJson.toDoc = .ok p := by
  simp [read, readRecord, toJson, Value.toDoc, Value.toPairs, fillMembers, fields,
    Doc.readMoment_text h, Doc.readString, Doc.readEnding, Parts.finish, bind, Except.bind, pure,
    Except.pure]

theorem writable_of_field {f : RecordField Parts} (hf : f ∈ fields) {d : Doc} {s s' : Parts}
    (hs : ∀ m ∈ s.createdAt, m.writable = true) (h : f.read d s = .ok s') :
    ∀ m ∈ s'.createdAt, m.writable = true := by
  simp only [fields, List.mem_cons, List.not_mem_nil, or_false] at hf
  obtain rfl | rfl | rfl | rfl := hf
  all_goals
    simp only at h
    obtain ⟨a, ha, rfl⟩ := exists_of_read h
  case inr.inr.inr =>
    intro m hm
    cases hm
    exact Doc.writable_of_readMoment ha
  all_goals exact hs

theorem writable_of_read {d : Doc} {p : Payload} (h : read d = .ok p) :
    p.createdAt.writable = true := by
  obtain ⟨s, hs, hp⟩ := exists_of_readRecord (by simp)
    (fun f hf d s s' hs h => writable_of_field hf hs h) h
  obtain ⟨id, author, content, createdAt⟩ := s
  simp only [Parts.finish, Option.bind_eq_bind, Option.bind_eq_some_iff] at hp
  obtain ⟨_, -, _, -, _, -, m, hm, hp⟩ := hp
  cases hp
  exact hs m hm

theorem numberless_toJson (p : Payload) : p.toJson.Numberless :=
  .object (by simp [Value.Numberless.string])

theorem lawful_wire : wire.Lawful where
  numberless := numberless_toJson
  read_toJson h := read_toJson (by simpa [wire] using h)
  writable_of_read h := by simpa [wire] using writable_of_read h

end Payload

namespace Post

def wire : Codec Post := ⟨toJson, read, fun p => [p.createdAt]⟩

theorem lawful_wire : wire.Lawful where
  numberless p := Payload.numberless_toJson (.ofPost p)
  read_toJson {p} h := by
    have hw : p.createdAt.writable = true := by simpa [wire] using h
    have hp : Payload.read p.toJson.toDoc = .ok (.ofPost p) :=
      Payload.read_toJson (p := .ofPost p) hw
    simp only [wire, read, hp, bind, Except.bind]
    rfl
  writable_of_read h := by
    obtain ⟨q, hq, rfl⟩ := exists_of_read h
    simpa [wire, Payload.toPost] using Payload.writable_of_read hq

end Post

namespace Event

def wire : Codec Event := ⟨toJson, read, fun e => [e.post.createdAt]⟩

theorem read_toJson {e : Event} (h : e.post.createdAt.writable = true) :
    read e.toJson.toDoc = .ok e := by
  simp [read, readRecord, toJson, Value.toDoc, Value.toPairs, fillMembers, fields,
    Payload.read_toJson h, Doc.readString, Doc.readEnding, Parts.finish, bind, Except.bind, pure,
    Except.pure]

theorem writable_of_field {f : RecordField Parts} (hf : f ∈ fields) {d : Doc} {s s' : Parts}
    (hs : ∀ p ∈ s.post, p.createdAt.writable = true) (h : f.read d s = .ok s') :
    ∀ p ∈ s'.post, p.createdAt.writable = true := by
  simp only [fields, List.mem_cons, List.not_mem_nil, or_false] at hf
  obtain rfl | rfl | rfl := hf
  all_goals
    simp only at h
    obtain ⟨a, ha, rfl⟩ := exists_of_read h
  case inr.inr =>
    intro p hp
    cases hp
    exact Payload.writable_of_read ha
  all_goals exact hs

theorem writable_of_read {d : Doc} {e : Event} (h : read d = .ok e) :
    e.post.createdAt.writable = true := by
  obtain ⟨s, hs, he⟩ := exists_of_readRecord (by simp)
    (fun f hf d s s' hs h => writable_of_field hf hs h) h
  obtain ⟨kind, correlation, post⟩ := s
  simp only [Parts.finish, Option.bind_eq_bind, Option.bind_eq_some_iff] at he
  obtain ⟨_, -, _, -, p, hp, he⟩ := he
  cases he
  exact hs p hp

theorem lawful_wire : wire.Lawful where
  numberless e := .object (by
    simpa [Value.Numberless.string] using Payload.numberless_toJson e.post)
  read_toJson h := read_toJson (by simpa [wire] using h)
  writable_of_read h := by simpa [wire] using writable_of_read h

end Event

namespace Followers

def wire : Codec Followers := ⟨toJson, read, fun _ => []⟩

theorem lawful_wire : wire.Lawful where
  numberless f := .object (by
    simp only [List.mem_singleton, forall_eq]
    refine .array fun v hv => ?_
    obtain ⟨u, -, rfl⟩ := List.mem_map.mp hv
    exact .string u)
  read_toJson _ := by
    simp [wire, read, readRecord, toJson, Value.toDoc, Value.toPairs, fillMembers, fields,
      Doc.readList_strings, Doc.readEnding, bind, Except.bind, pure, Except.pure]
  writable_of_read _ := rfl

end Followers

/-! ### The wire -/

namespace Codec
variable {α : Type}

/-- Moments that the wire can show: of the years 0 to 9999, with an offset of less than a day. -/
def Shown (m : Moment) : Prop :=
  (0 ≤ m.localDate.year ∧ m.localDate.year ≤ 9999) ∧ m.offset.natAbs < 24 * 60

/-- What is written is read as it was, and what is read has a text that is read and written as
itself. -/
structure RoundTrips (C : Codec α) : Prop where
  encodes (a : α) : (∃ t, C.encode? a = some t) ↔ ∀ m ∈ C.moments a, Shown m
  decode_encode {a : α} {t : String} (h : C.encode? a = some t) : C.decode t = .ok a
  encode_decode {s : String} {a : α} (h : C.decode s = .ok a) :
    ∃ t, C.encode? a = some t ∧ ∃ b, C.decode t = .ok b ∧ C.encode? b = some t

theorem encodes_iff (C : Codec α) (a : α) :
    (∃ t, C.encode? a = some t) ↔ ∀ m ∈ C.moments a, Shown m := by
  simp [encode?, Moment.writable_iff, Shown]

theorem Lawful.roundTrips {C : Codec α} (h : C.Lawful) : C.RoundTrips where
  encodes := C.encodes_iff
  decode_encode := h.decode_encode
  encode_decode hs := by
    obtain ⟨t, ht⟩ := h.encode_decode hs
    exact ⟨t, ht, _, h.decode_encode ht, ht⟩

end Codec

/-- The text of an event before that of its payload. -/
def Event.front (e : Event) : String :=
  "\x7b" ++ quote "kind" ++ ":" ++ quote e.kind ++ "," ++ quote "correlation_id" ++ ":" ++
    quote e.correlation.text ++ "," ++ quote "post" ++ ":"

theorem Event.compact_toJson (e : Event) :
    e.toJson.compact = e.front ++ e.post.toJson.compact ++ "\x7d" := by
  simp [toJson, front, Value.compact, Value.compactMembers, String.append_assoc]

/-- A post is written as its payload is. -/
theorem Payload.encode?_ofPost (p : Post) : wire.encode? (ofPost p) = Post.wire.encode? p := rfl

/-- **The wire loses nothing.** Posts, payloads, events and lists of followers are read from their
texts as they were written, and whatever text they are read from, they have one that is read and
written as itself. A post and its payload have the same text, which stands in the text of the event
and is read there as the post. -/
theorem wire_round_trip :
    (Post.wire.RoundTrips ∧ Payload.wire.RoundTrips ∧ Event.wire.RoundTrips ∧
      Followers.wire.RoundTrips) ∧
    (∀ p : Post, Payload.wire.encode? (.ofPost p) = Post.wire.encode? p) ∧
    ∀ (p : Post) (correlation : Uuid) (t : String),
      Event.wire.encode? (.announcing p correlation) = some t →
        ∃ s, Post.wire.encode? p = some s ∧
          t = (Event.announcing p correlation).front ++ s ++ "\x7d" ∧
          Post.wire.decode s = .ok p ∧
          ∃ e, Event.wire.decode t = .ok e ∧ e.post.toPost = p := by
  refine ⟨⟨Post.lawful_wire.roundTrips, Payload.lawful_wire.roundTrips,
    Event.lawful_wire.roundTrips, Followers.lawful_wire.roundTrips⟩, Payload.encode?_ofPost, ?_⟩
  intro p correlation t ht
  have hread := Event.lawful_wire.decode_encode ht
  obtain ⟨s, hs⟩ : ∃ s, Post.wire.encode? p = some s := by
    rw [Codec.encodes_iff]
    exact (Codec.encodes_iff Event.wire (.announcing p correlation)).mp ⟨t, ht⟩
  have hfront : t = (Event.announcing p correlation).front ++ s ++ "\x7d" := by
    simp only [Codec.encode?] at ht hs
    split at ht <;> split at hs <;> cases ht <;> cases hs
    exact Event.compact_toJson _
  exact ⟨s, hs, hfront, Post.lawful_wire.decode_encode hs, _, hread, rfl⟩

/-- A post with quotes, a control character and a letter beyond ASCII, with trailing zeros in its
fraction and an offset. -/
theorem wire_round_trip_of_escaped :
    ∃ s, s = "\x7b\"id\":\"00000000-0000-0000-0000-0000000000ff\"," ++
        "\"author_id\":\"\\\"al\\\"\",\"content\":\"\\u0001\\n\\\\é\"," ++
        "\"created_at\":\"2025-01-02T03:04:05.25+05:30\"\x7d" ∧
      Post.wire.encode?
        ⟨⟨.ofNat 255⟩, ⟨"\"al\""⟩, "\x01\n\\é", ⟨1735767245250000000, 330⟩⟩ = some s ∧
      Post.wire.decode s =
        .ok ⟨⟨.ofNat 255⟩, ⟨"\"al\""⟩, "\x01\n\\é", ⟨1735767245250000000, 330⟩⟩ := by
  refine ⟨_, rfl, ?h, ?_⟩
  case h => decide +kernel
  exact wire_round_trip.1.1.decode_encode (by decide +kernel)

end Timelines
