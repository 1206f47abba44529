import Timelines.Database.Failure
import Timelines.Service.Failure

/-! How the program can fail: in setting up what the engine works with, or in the work itself. -/
namespace Timelines.Program

inductive SetupFailure
  | io (text : String)
  | database (text : String)
  | telemetry (text : String)
  | configuration (text : String)
  | http (text : String)
  deriving DecidableEq, Inhabited

namespace SetupFailure

def message : SetupFailure → String
  | io text => "io error: " ++ text
  | database text => "database error: " ++ text
  | telemetry text => "telemetry initialization failed: " ++ text
  | configuration text => "configuration error: " ++ text
  | http text => "http client error: " ++ text

def ofDatabase (failure : Database.Failure) : SetupFailure := database failure.message

def ofMigration (failure : Database.MigrationFailure) : SetupFailure :=
  database ("migration failed: " ++ failure.message)

end SetupFailure

inductive Failure
  | domain (violation : Violation)
  | setup (failure : SetupFailure)
  | service (failure : Service.Failure)
  | unexpected (text : String)
  deriving DecidableEq, Inhabited

def Failure.message : Failure → String
  | domain v => v.message
  | setup f => f.message
  | service f => f.message
  | unexpected text => "unexpected error: " ++ text

end Timelines.Program
