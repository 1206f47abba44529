import Timelines.Database.Failure
import Timelines.Post.Basic

/-! What is asked of the database, as SQL with parameters, and the shape of its answers.

The database keeps times in whole microseconds. -/
namespace Timelines.Database

/-! ### Times -/

/-- 2000-01-01T00:00:00Z in nanoseconds since 1970. -/
def epoch : Int := 946684800 * 1000000000

/-- The time that is kept of a moment: in microseconds since 2000, cut towards that year. -/
def micros (m : Moment) : Int := Int.tdiv (m.nanos - epoch) 1000

/-- The moment that a time means, on the calendar or beyond it. -/
def momentOf (micros : Int) : Moment := .utc (epoch + micros * 1000)

/-! ### Queries -/

/-- A step in the making of the tables: its number, its text, and the text's SHA-384 digest. -/
structure Migration where
  version : Int
  script : String
  digest : String
  deriving DecidableEq, Inhabited

inductive Query
  /-- Asks for nothing; the database is there if it answers. -/
  | probe
  | insertPost (id : Uuid) (draft : Draft)
  | insertEntry (owner : UserId) (post : Post)
  /-- The newest entries of an owner's timeline. -/
  | selectTimeline (owner : UserId) (limit : Nat)
  /-- Keeps others from applying migrations. -/
  | lock
  /-- The first version that was left half done. -/
  | selectDirty
  /-- The versions on record. -/
  | selectApplied
  | apply (m : Migration)
  deriving DecidableEq, Inhabited

/-- A parameter of a query. -/
inductive Parameter
  | text (s : String)
  | integer (n : Nat)
  | uuid (id : Uuid)
  /-- Microseconds since 2000. -/
  | time (micros : Int)
  deriving DecidableEq, Inhabited

namespace Query

def sql : Query → String
  | probe => "SELECT 1"
  | insertPost .. =>
    "INSERT INTO posts (id, author_id, content, created_at) VALUES ($1, $2, $3, $4) RETURNING id"
  | insertEntry .. =>
    "INSERT INTO timeline_entries (owner_id, created_at, post_id, author_id, content) " ++
      "VALUES ($1, $2, $3, $4, $5) ON CONFLICT DO NOTHING"
  | selectTimeline .. =>
    "SELECT post_id, author_id, content, created_at FROM timeline_entries WHERE owner_id = $1 " ++
      "ORDER BY created_at DESC, post_id DESC LIMIT $2"
  | lock => "SELECT pg_advisory_lock($1)"
  | selectDirty =>
    "SELECT version FROM _sqlx_migrations WHERE success = false ORDER BY version LIMIT 1"
  | selectApplied => "SELECT version, checksum FROM _sqlx_migrations ORDER BY version"
  | apply m => m.script

def parameters : Query → List Parameter
  | insertPost id draft =>
    [.uuid id, .text draft.author.text, .text draft.content, .time (micros draft.createdAt)]
  | insertEntry owner p =>
    [.text owner.text, .time (micros p.createdAt), .uuid p.id.uuid, .text p.author.text,
      .text p.content]
  | selectTimeline owner limit => [.text owner.text, .integer limit]
  | _ => []

/-- Whether a query is part of the bookkeeping of migrations. -/
def bookkeeping : Query → Bool
  | lock | selectDirty | selectApplied => true
  | _ => false

end Query

/-! ### Answers -/

/-- An entry of a timeline. -/
structure Row where
  post : Uuid
  author : String
  content : String
  /-- Microseconds since 2000. -/
  createdAt : Int
  deriving DecidableEq, Inhabited

/-- A version on record. -/
structure Applied where
  version : Int
  digest : String
  deriving DecidableEq, Inhabited

/-- What a query gives. -/
abbrev Query.Result : Query → Type
  | insertPost .. => Uuid
  | selectTimeline .. => List Row
  | selectDirty => Option Int
  | selectApplied => List Applied
  | _ => Unit

abbrev Query.Reply (q : Query) : Type := Except Failure q.Result

/-- A database on a world `σ`. -/
abbrev Server (σ : Type) := (q : Query) → σ → q.Reply × σ

end Timelines.Database
