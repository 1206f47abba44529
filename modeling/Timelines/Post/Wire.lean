import Timelines.Json.Printer
import Timelines.Json.Record
import Timelines.Post.Event

/-! Posts, events and lists of followers in JSON. -/
namespace Timelines
open Json

/-! ### Writing -/

def PostId.toJson (id : PostId) : Value := .string id.text

def UserId.toJson (u : UserId) : Value := .string u.text

def Payload.toJson (p : Payload) : Value :=
  .object [("id", .string p.id.text), ("author_id", .string p.author),
    ("content", .string p.content), ("created_at", .string p.createdAt.text)]

def Post.toJson (p : Post) : Value :=
  .object [("id", p.id.toJson), ("author_id", p.author.toJson),
    ("content", .string p.content), ("created_at", .string p.createdAt.text)]

def Event.toJson (e : Event) : Value :=
  .object [("kind", .string e.kind), ("correlation_id", .string e.correlation.text),
    ("post", e.post.toJson)]

def Followers.toJson (f : Followers) : Value :=
  .object [("followers", .array (f.users.map .string))]

/-! ### Reading -/

namespace Json.Doc

/-- Reads a string that `parse` understands. -/
def readParsed (parse : String → Option α) (d : Doc) : Except Fault α := do
  match parse (← d.readString) with
  | some a => return a
  | none => .error .mismatched

def readUuid : Doc → Except Fault Uuid := readParsed Uuid.parse?

def readMoment : Doc → Except Fault Moment := readParsed Moment.parse?

end Json.Doc

def PostId.read (d : Doc) : Except Fault PostId := return ⟨← d.readUuid⟩

/-- Ids from a peer are taken as they are, blank ones too. -/
def UserId.read (d : Doc) : Except Fault UserId := return ⟨← d.readString⟩

namespace Payload

/-- The fields read so far. -/
structure Parts where
  id : Option Uuid
  author : Option String
  content : Option String
  createdAt : Option Moment

def Parts.finish (s : Parts) : Option Payload := do
  return ⟨← s.id, ← s.author, ← s.content, ← s.createdAt⟩

def fields : List (RecordField Parts) :=
  [⟨"id", (·.id.isSome), fun d s => return { s with id := some (← d.readUuid) }⟩,
    ⟨"author_id", (·.author.isSome), fun d s => return { s with author := some (← d.readString) }⟩,
    ⟨"content", (·.content.isSome), fun d s => return { s with content := some (← d.readString) }⟩,
    ⟨"created_at", (·.createdAt.isSome),
      fun d s => return { s with createdAt := some (← d.readMoment) }⟩]

def read : Doc → Except Fault Payload :=
  readRecord fields ⟨none, none, none, none⟩ Parts.finish

/-- The post that a payload shows. -/
def toPost (p : Payload) : Post := ⟨⟨p.id⟩, ⟨p.author⟩, p.content, p.createdAt⟩

end Payload

def Post.read (d : Doc) : Except Fault Post := return (← Payload.read d).toPost

namespace Event

/-- The fields read so far. -/
structure Parts where
  kind : Option String
  correlation : Option Uuid
  post : Option Payload

def Parts.finish (s : Parts) : Option Event := do
  return ⟨← s.kind, ← s.correlation, ← s.post⟩

def fields : List (RecordField Parts) :=
  [⟨"kind", (·.kind.isSome), fun d s => return { s with kind := some (← d.readString) }⟩,
    ⟨"correlation_id", (·.correlation.isSome),
      fun d s => return { s with correlation := some (← d.readUuid) }⟩,
    ⟨"post", (·.post.isSome), fun d s => return { s with post := some (← Payload.read d) }⟩]

def read : Doc → Except Fault Event := readRecord fields ⟨none, none, none⟩ Parts.finish

end Event

namespace Followers

def fields : List (RecordField (Option (List String))) :=
  [⟨"followers", (·.isSome), fun d _ => return some (← d.readList Doc.readString)⟩]

/-- A list that is left out is empty. -/
def read : Doc → Except Fault Followers :=
  readRecord fields none fun users => some ⟨users.getD []⟩

end Followers
end Timelines
