import Timelines.Database.Query
import Timelines.Number.Word

/-! Posts and timelines in the database.

Times beyond the calendar can neither be sent nor taken: they leave nothing to go on with. -/
namespace Timelines.Database

/-- The largest number of rows that can be asked for. -/
def maxRows : Nat := Number.Word.count 63 - 1

/-- The query for the newest entries of a timeline, if so many can be asked for. -/
def timelineQuery (owner : UserId) (limit : Nat) : Except StoreError Query :=
  if limit = 0 then .error (.invalidInput "timeline limit must be positive")
  else if maxRows < limit then .error (.invalidInput "timeline limit exceeds supported range")
  else .ok (.selectTimeline owner limit)

/-- The post of a row; its author's id must be one that is allowed. -/
def Row.toPost (row : Row) : Except StoreError Post :=
  match UserId.parse row.author with
  | .ok author => .ok ⟨⟨row.post⟩, author, row.content, momentOf row.createdAt⟩
  | .error v => .error (.persistence
      ("timeline entry " ++ row.post.text ++ " has a corrupt author id: " ++ v.message))

variable {σ : Type} (server : Server σ)

/-- What comes of a query; nothing where a time is beyond the calendar. -/
abbrev Outcome (α : Type) := Option (Except StoreError α)

/-- Records a draft under an id. -/
def save (id : Uuid) (draft : Draft) (s : σ) : Outcome PostId × σ :=
  if draft.createdAt.onCalendar then
    match server (.insertPost id draft) s with
    | (.ok id, s) => (some (.ok ⟨id⟩), s)
    | (.error f, s) => (some (.error f.toStoreError), s)
  else (none, s)

/-- Puts a post into a timeline. -/
def write (owner : UserId) (p : Post) (s : σ) : Outcome Unit × σ :=
  if p.createdAt.onCalendar then
    match server (.insertEntry owner p) s with
    | (.ok (), s) => (some (.ok ()), s)
    | (.error f, s) => (some (.error f.toStoreError), s)
  else (none, s)

/-- Reads the newest posts of a timeline. -/
def newest (owner : UserId) (limit : Nat) (s : σ) : Outcome (List Post) × σ :=
  match timelineQuery owner limit with
  | .error e => (some (.error e), s)
  | .ok _ =>
    match server (.selectTimeline owner limit) s with
    | (.ok rows, s) =>
      (if rows.all fun row => (momentOf row.createdAt).onCalendar then
        some (rows.mapM Row.toPost) else none, s)
    | (.error f, s) => (some (.error f.toStoreError), s)

end Timelines.Database
