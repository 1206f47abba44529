import Timelines.CommandLine
import Timelines.Json.Printer
import Timelines.Database.Migrating
import Timelines.Program.Failure
import Timelines.Settings.Basic
import Timelines.Simulation.Network
import Timelines.Simulation.Schedule

/-! Running a task.

A user is named in words that must be an id. The database is connected to and probed before anything
else is set up; then come the social graph's URL and the publisher, and then the call itself. What
is printed is printed at the end. -/
namespace Timelines.Program
open CommandLine Simulation

/-- Why a task ends early. -/
inductive Stop
  | failed (failure : Failure)
  /-- The process breaks down. -/
  | broken
  deriving Inhabited

/-- Work on the network that may end early. -/
abbrev Work := ExceptT Stop (StateM Network)

def fail (f : Failure) : Work α := throw (.failed f)

/-- A step that fails as the setting up of the program fails. -/
def setUp (failure : ε → SetupFailure) : Except ε α → Work α
  | .ok a => return a
  | .error e => fail (.setup (failure e))

/-- A user as a command line names one. -/
def named (user : String) : Work UserId :=
  match UserId.parse user with
  | .ok u => return u
  | .error v => fail (.domain v)

/-- Queries the database. -/
def query (work : Simulation.Database → α × Simulation.Database) : Work α :=
  fun n => let (a, n) := n.ask work; (.ok a, n)

/-! ### Setting up -/

/-- Connects to the database and probes it. -/
def openDatabase (settings : Settings) : Work Unit := do
  match settings.database.url with
  | none => fail (.setup (.configuration "database url is not configured"))
  | some url =>
    setUp .ofDatabase ((← get).database.connect url)
    setUp .ofDatabase (← query (Database.server .probe))

/-- The social graph's URL must be one that others can be told relative to. -/
def checkGraph (base : Url) : Except SetupFailure Unit :=
  if base.canBeBase then .ok ()
  else .error (.configuration ("social graph url `" ++ base.text ++ "` cannot be used as a base"))

/-- The publisher of some settings; there is none for a capacity that no channel has. -/
def publisher? (events : Settings.Events) : Option Publisher :=
  match events.webhookUrl with
  | some url => some (.webhook url)
  | none => (EventLog.open? events.broadcastCapacity).map .channel

/-- Sets up what the engine works with. -/
def openPeers (settings : Settings) : Work Unit := do
  openDatabase settings
  if !settings.cacheConfig.tabled then throw .broken
  setUp id (checkGraph settings.graph.baseUrl)
  match publisher? settings.events with
  | none => throw .broken
  | some publisher =>
    modify fun n =>
      { n with
        cache := .create settings.cacheConfig
        graph := settings.graph.baseUrl
        graphTimeout := settings.graph.timeout
        publisher
        publishTimeout := settings.events.timeout }

/-! ### Calls -/

/-- How a process goes: as soon as its task is done, or when its background work waits. -/
inductive Leaving
  | atOnce
  | whenIdle
  deriving DecidableEq, Inhabited

/-- Makes a call, with the wall clock at a number of nanoseconds since 1970. -/
def call (settings : Settings) (wall : Int) (leaving : Leaving) (c : Call) : Work Outcome := do
  let run : Run Network Network.Ticket (Option Outcome) := do
    let n ← runCall Network.peers c .never
    if leaving = .whenIdle then settle Network.peers
    return outcome? (← get) n
  let (outcome, s) := run.run (.start settings.serviceConfig wall (← get))
  set { s.world with reports := s.world.reports ++ s.reports.reverse }
  match if s.world.broken then none else outcome with
  | some (.failed f) => fail (.service f)
  | some outcome => return outcome
  | none => throw .broken

def migrate (settings : Settings) : Work String := do
  openDatabase settings
  setUp .ofMigration (← query fun d => (Timelines.Database.migrate Database.server).run d)
  modify fun n => { n with reports := n.reports ++ [.note .migrationsApplied] }
  return ""

def post (settings : Settings) (wall : Int) (leaving : Leaving) (author content : String) :
    Work String := do
  let author ← named author
  openPeers settings
  match ← call settings wall leaving (.create (.start author content)) with
  | .created id => return (Json.Value.object [("id", id.toJson)]).compact ++ "\n"
  | _ => throw .broken

def timeline (settings : Settings) (wall : Int) (leaving : Leaving) (user : String) :
    Work String := do
  let user ← named user
  openPeers settings
  match ← call settings wall leaving (.read (.start user)) with
  | .timeline posts =>
    match posts.findSome? (·.createdAt.unwritable?) with
    | some part =>
      fail (.unexpected ("failed to encode timeline: " ++ Moment.unwritableMessage part))
    | none => return (Json.Value.array (posts.map Post.toJson)).pretty ++ "\n"
  | _ => throw .broken

def perform (settings : Settings) (wall : Int) (leaving : Leaving) : Task → Work String
  | .migrate => migrate settings
  | .post author content => post settings wall leaving author content
  | .timeline user => timeline settings wall leaving user

/-! ### Runs -/

/-- How a task ended: with what it printed, or early. -/
abbrev Ending := Except Stop String

/-- Runs a task; a failure is reported last. -/
def run (settings : Settings) (wall : Int) (leaving : Leaving) (task : Task) (n : Network) :
    Ending × Network :=
  let (ending, n) := (perform settings wall leaving task).run n
  let n := if leaving = .whenIdle then n.logEvents else n
  match ending with
  | .error (.failed f) =>
    (ending, { n with reports := n.reports ++ [.note (.programFailed f.message)] })
  | _ => (ending, n)

end Timelines.Program
