import Timelines.Database.Query

/-! Bringing the tables of a database up to date.

The database is locked, and a version that was left half done stops everything. Versions on record
must be known and have the text they had; those that are not on record are applied in turn. -/
namespace Timelines.Database

/-- The tables for posts and timelines. -/
def createTables : Migration where
  version := 20250301000000
  script := String.join (
    ["-- Global record of every post.",
      "CREATE TABLE IF NOT EXISTS posts (",
      "    id          UUID PRIMARY KEY,",
      "    author_id   TEXT NOT NULL,",
      "    content     TEXT NOT NULL,",
      "    created_at  TIMESTAMPTZ NOT NULL",
      ");",
      "",
      "CREATE INDEX IF NOT EXISTS posts_author_created_at_idx",
      "    ON posts (author_id, created_at DESC);",
      "",
      "-- Denormalized per-follower projection; one row per (owner, post), written at " ++
        "fan-out time.",
      "CREATE TABLE IF NOT EXISTS timeline_entries (",
      "    owner_id    TEXT NOT NULL,",
      "    created_at  TIMESTAMPTZ NOT NULL,",
      "    post_id     UUID NOT NULL,",
      "    author_id   TEXT NOT NULL,",
      "    content     TEXT NOT NULL,",
      "    PRIMARY KEY (owner_id, created_at, post_id)",
      ");",
      "",
      "CREATE INDEX IF NOT EXISTS timeline_entries_owner_recent_idx",
      "    ON timeline_entries (owner_id, created_at DESC, post_id DESC);"].map (· ++ "\n"))
  digest := "2ff6e378399ff79af00e9464d1b0b20864ba9d9c94314199" ++
    "fd1f69ac31ee03bd97bb893d1476fe0f5f8fd4d90524ef63"

/-- All migrations, in the order of their versions. -/
def migrations : List Migration := [createTables]

variable {σ : Type}

/-- Work on a database that may fail. -/
abbrev Migrating (σ : Type) := ExceptT MigrationFailure (StateM σ)

/-- Asks the database. -/
def ask (server : Server σ) (failure : Failure → MigrationFailure) (q : Query) :
    Migrating σ q.Result :=
  fun s => ((server q s).1.mapError failure, (server q s).2)

/-- Versions on record are known. -/
def checkKnown (known : List Migration) (applied : List Applied) : Except MigrationFailure Unit :=
  match applied.find? fun a => !known.any (·.version = a.version) with
  | some a => .error (.missing a.version)
  | none => .ok ()

/-- Applies a migration that is not on record, and checks one that is. -/
def bring (server : Server σ) (applied : List Applied) (m : Migration) : Migrating σ Unit :=
  match applied.find? (·.version = m.version) with
  | some a => if a.digest = m.digest then return () else throw (.modified m.version)
  | none => ask server (.version m.version) (.apply m)

/-- Brings the tables up to date. -/
def migrate (server : Server σ) : Migrating σ Unit := do
  ask server .execution .lock
  if let some version ← ask server .execution .selectDirty then throw (.dirty version)
  let applied ← ask server .execution .selectApplied
  checkKnown migrations applied
  migrations.forM (bring server applied)

end Timelines.Database
