import Timelines.CommandLine
import Timelines.Settings.Basic
import Timelines.Settings.File

/-! Loading settings.

Layers lie over one another: the default file, the local file, the file that the command line names,
the environment, and last the command line itself. -/
namespace Timelines.Settings
open CommandLine

/-! ### The environment -/

/-- What the names of variables that hold settings begin with. -/
def variableStart : String := "murmur__"

/-- A key with points in the place of double underscores. -/
def dotted : List Char → List Char
  | '_' :: '_' :: cs => '.' :: dotted cs
  | c :: cs => c :: dotted cs
  | [] => []

/-- The layer of the environment's variables, whose names may be in any case. -/
def environmentLayer (env : List (String × String)) : List (String × Node) :=
  env.filterMap fun (name, value) =>
    let name := Text.lowerText name
    if name.startsWith variableStart then
      some (String.ofList (dotted (name.toList.drop variableStart.length)),
        .scalar (some "the environment") (.text value))
    else none

/-! ### The command line -/

/-- A value from the command line in the place of the one below. -/
def orBelow (above below : Option α) : Option α := above.or below

def Raw.override (raw : Raw) (o : Overrides) : Raw :=
  { raw with
    database := { raw.database with url := orBelow o.databaseUrl raw.database.url }
    logging :=
      ⟨orBelow o.logLevel raw.logging.level, orBelow o.logJson raw.logging.json⟩
    graph := { raw.graph with baseUrl := orBelow o.graphUrl raw.graph.baseUrl }
    events := { raw.events with webhookUrl := orBelow o.webhookUrl raw.events.webhookUrl }
    fanout := { raw.fanout with workers := orBelow o.fanoutWorkers raw.fanout.workers }
    timeline := { raw.timeline with queryLimit := orBelow o.queryLimit raw.timeline.queryLimit } }

/-! ### All layers -/

/-- The files that need not be named: the default one and the local one. -/
def standardFiles : List String := ["config/default", "murmur"]

/-- The layer of a file that need not be there. -/
def optionalLayer (files : Files) (path : String) : Except Failure (List (String × Node)) :=
  match find files path with
  | .ok found => found.read
  | .error _ => .ok []

/-- The layers below the command line, the lowest first. -/
def layers (invocation : Invocation) (env : List (String × String)) (files : Files) :
    Except Failure (List (List (String × Node))) := do
  let standard ← standardFiles.mapM (optionalLayer files)
  let named ←
    match invocation.configFile with
    | some path => do (← find files path).read
    | none => pure []
  return standard ++ [named, environmentLayer env]

/-- The settings that a command line runs with. -/
def load (invocation : Invocation) (env : List (String × String)) (files : Files) :
    Except Failure Settings := do
  let root := (← layers invocation env files).foldl Node.addLayer (.table [])
  match Raw.read root with
  | .error m => .error (.mismatch m)
  | .ok raw => check (raw.override invocation.overrides)

end Timelines.Settings
