import Timelines.Peer.Failure
import Timelines.Text.Search

/-! How the database can fail, and what the engine makes of it. -/
namespace Timelines.Database
open Text

inductive Failure
  | poolTimedOut
  | poolClosed
  | workerCrashed
  | rowNotFound
  | columnNotFound (name : String)
  | protocol (text : String)
  | configuration (text : String)
  | decode (text : String)
  | io (text : String)
  /-- The connection could not be secured. -/
  | insecure (text : String)
  /-- The server answered with an error. -/
  | server (text : String)
  deriving DecidableEq, Inhabited

namespace Failure

def message : Failure → String
  | poolTimedOut => "pool timed out while waiting for an open connection"
  | poolClosed => "attempted to acquire a connection on a closed pool"
  | workerCrashed => "attempted to communicate with a crashed background worker"
  | rowNotFound => "no rows returned by a query that expected to return at least one row"
  | columnNotFound name => "no column found for name: " ++ name
  | protocol text => "encountered unexpected or invalid data: " ++ text
  | configuration text => "error with configuration: " ++ text
  | decode text => "error occurred while decoding: " ++ text
  | io text => "error communicating with database: " ++ text
  | insecure text => "error occurred while attempting to establish a TLS connection: " ++ text
  | server text => "error returned from database: " ++ text

/-- The store's view: an expired wait is a timeout, and the server's words tell expired statements
and refused input. -/
def toStoreError : Failure → StoreError
  | poolTimedOut => .timeout
  | server text =>
    if mentions text "canceling statement due to user request" ||
        mentions text "canceling statement due to statement timeout" then .timeout
    else if mentions text "invalid input syntax" || mentions text "value too long" then
      .invalidInput text
    else .persistence (server text).message
  | failure => .persistence failure.message

end Failure

/-- How applying the migrations can fail. -/
inductive MigrationFailure
  /-- A version on record that is not among the known ones. -/
  | missing (version : Int)
  /-- A version on record with another text. -/
  | modified (version : Int)
  /-- A version that was left half done. -/
  | dirty (version : Int)
  /-- The text of a version failed. -/
  | version (version : Int) (cause : Failure)
  /-- The bookkeeping failed. -/
  | execution (cause : Failure)
  deriving DecidableEq, Inhabited

def MigrationFailure.message : MigrationFailure → String
  | missing v =>
    s!"migration {v} was previously applied but is missing in the resolved migrations"
  | modified v => s!"migration {v} was previously applied but has been modified"
  | dirty v =>
    s!"migration {v} is partially applied; fix and remove row from `_sqlx_migrations` table"
  | version v cause => s!"while executing migration {v}: " ++ cause.message
  | execution cause => "while executing migrations: " ++ cause.message

end Timelines.Database
