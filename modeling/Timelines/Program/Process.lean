import Timelines.Program.Run
import Timelines.Report.Line
import Timelines.Report.Summary
import Timelines.Settings.Load

/-! The program as a process: from its words, variables and files to its exit code, what it prints
and what it writes to its log. -/
namespace Timelines.Program
open Report Simulation

structure Process where
  exitCode : Nat
  stdout : String
  format : Format
  log : List Notice
  /-- The network that the process leaves behind. -/
  network : Network
  deriving Inhabited

/-- The variable that names what is written to the log. -/
def logVariable : String := "RUST_LOG"

/-- What is printed for `--version`. -/
def versionLine : String := name ++ " " ++ version ++ "\n"

/-- A process that does not get beyond its command line. -/
def Process.ofRefusal (r : CommandLine.Refusal) (n : Network) : Process :=
  match r with
  | .displayVersion => ⟨0, versionLine, .plain, [], n⟩
  | .displayHelp => ⟨0, "", .plain, [], n⟩
  | _ => ⟨2, "", .plain, [], n⟩

/-- A process whose settings cannot be loaded. -/
def Process.ofLoadFailure (f : Settings.Failure) (n : Network) : Process :=
  let failure : Failure := .unexpected ("failed to load configuration: " ++ f.message)
  ⟨1, "", .plain, [.programFailed failure.message], n⟩

/-- The user that a task is for. -/
def user : CommandLine.Task → String
  | .migrate => ""
  | .post author _ => author
  | .timeline user => user

/-- A process that has run its task. -/
def Process.ofRun (settings : Settings) (filter : Filter) (task : CommandLine.Task)
    (ending : Ending) (n : Network) : Process :=
  let waits := settings.timeline.publish == .strict
  let log := (notices n.reports).filter fun note =>
    filter.passes (note.spans (user task) waits) note
  let format : Format := if settings.logging.json then .json else .compact
  match ending with
  | .ok stdout => ⟨0, stdout, format, log, n⟩
  | .error (.failed _) => ⟨1, "", format, log, n⟩
  | .error .broken => ⟨101, "", format, log, n⟩

/-- The paths of the files that a process may look at. -/
def paths (words : List String) (env : List (String × String)) : List String :=
  let named := match CommandLine.parse words fun name => env.lookup name with
    | .ok invocation => invocation.configFile.toList
    | .error _ => []
  (Settings.standardFiles ++ named).flatMap Settings.candidates

/-- The process of some words. -/
def process (words : List String) (env : List (String × String)) (files : Settings.Files)
    (wall : Int) (n : Network) : Process :=
  match CommandLine.parse words fun name => env.lookup name with
  | .error r => .ofRefusal r n
  | .ok invocation =>
    match Settings.load invocation env files with
    | .error f => .ofLoadFailure f n
    | .ok settings =>
      let n := { n with
        proxies := .ofEnvironment env
        database := { n.database with environment := .ofEnvironment env } }
      let (ending, n) := run settings wall .atOnce invocation.task n
      let filter := Filter.parse settings.logging.level (env.lookup logVariable)
      .ofRun settings filter invocation.task ending n

end Timelines.Program
