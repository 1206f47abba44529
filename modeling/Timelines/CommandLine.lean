import Timelines.Text.Decimal
import Timelines.Text.Case

/-! The command line.

A command takes options, each at most once and with a value behind it or after an equals sign. A
value is looked at when the next option comes, at once after an equals sign, and at the end
otherwise; so a word that is out of place is refused before the value of the option that stands
before it. What is wrong with a subcommand is told before what is wrong around it. -/
namespace Timelines.CommandLine
open Text

/-- Why a command line is not run. -/
inductive Refusal
  | displayHelp
  | displayHelpOnMissing
  | displayVersion
  | unknownArgument
  | invalidSubcommand
  | missingSubcommand
  | missingRequired
  | argumentConflict
  | invalidValue
  | valueValidation
  | tooManyValues
  deriving DecidableEq, Inhabited

/-! ### Options -/

/-- What an option takes. -/
inductive Kind
  | text
  | path
  | count
  | truth
  deriving DecidableEq, Inhabited

inductive Value
  | text (s : String)
  | count (n : Nat)
  | truth (b : Bool)
  deriving DecidableEq, Inhabited

structure Flag where
  name : String
  kind : Kind
  deriving DecidableEq, Inhabited

/-- Words for truth values, in any case. -/
def truth? (s : String) : Option Bool :=
  let word := lowerText s
  if ["y", "yes", "t", "true", "on", "1"].contains word then some true
  else if ["n", "no", "f", "false", "off", "0"].contains word then some false
  else none

/-- A value as its option takes it. -/
def readValue (kind : Kind) (s : String) : Except Refusal Value :=
  match kind with
  | .text => .ok (.text s)
  | .path => if s.isEmpty then .error .invalidValue else .ok (.text s)
  | .count =>
    match Decimal.word? s with
    | some n => .ok (.count n)
    | none => .error .valueValidation
  | .truth =>
    match truth? s with
    | some b => .ok (.truth b)
    | none => .error .valueValidation

/-- A command: its options, whether it tells the version, and its subcommands. -/
structure Command where
  options : List Flag
  version : Bool
  subcommands : List String

/-- What was given: options with their values, and an option that was not looked at yet, with the
value behind it, if it has come. -/
structure Given where
  values : List (String × Value)
  pending : Option (Flag × Option String)

namespace Given

def nothing : Given := ⟨[], none⟩

/-- Takes an option with its value. -/
def accept (g : Given) (o : Flag) (value : Option String) : Except Refusal Given :=
  match value with
  | none => .error .invalidValue
  | some s =>
    if (g.values.lookup o.name).isSome then .error .argumentConflict
    else (readValue o.kind s).map fun v => { g with values := g.values ++ [(o.name, v)] }

/-- Looks at the option that is pending. -/
def resolve (g : Given) : Except Refusal Given :=
  match g.pending with
  | none => .ok g
  | some (o, value) => accept { g with pending := none } o value

/-- The option whose value is the next word. -/
def awaiting (g : Given) : Option Flag :=
  match g.pending with
  | some (o, none) => some o
  | _ => none

def text? (g : Given) (name : String) : Option String :=
  match g.values.lookup name with
  | some (.text s) => some s
  | _ => none

def count? (g : Given) (name : String) : Option Nat :=
  match g.values.lookup name with
  | some (.count n) => some n
  | _ => none

def truth? (g : Given) (name : String) : Option Bool :=
  match g.values.lookup name with
  | some (.truth b) => some b
  | _ => none

end Given

/-- Refuses with a screen of help or the version, unless the option before has a fault. -/
def screen (g : Given) (r : Refusal) : Except Refusal α := do
  let _ ← g.resolve
  .error r

/-- A word that is neither an option nor a value. -/
def misplaced (c : Command) (trailing : Bool) (word : String) : Refusal :=
  if c.subcommands.isEmpty then .unknownArgument
  else if trailing && c.subcommands.contains word then .unknownArgument
  else .invalidSubcommand

/-- A word that begins with two hyphens: its name, and the value after an equals sign. -/
def long? (word : String) : Option (String × Option String) :=
  match word.toList with
  | '-' :: '-' :: cs =>
    let name := String.ofList (cs.takeWhile (· != '='))
    match cs.dropWhile (· != '=') with
    | _ :: value => some (name, some (String.ofList value))
    | [] => some (name, none)
  | _ => none

/-- The first letter behind a single hyphen. -/
def short? (word : String) : Option Char :=
  match word.toList with
  | '-' :: c :: _ => some c
  | _ => none

/-- Where reading a command stops: at the end, or at a subcommand with the words behind it. -/
inductive Stop
  | ending
  | subcommand (name : String) (rest : List String)

/-- Reads words up to a subcommand or the end. -/
def readWords (c : Command) (trailing : Bool) (g : Given) :
    List String → Except Refusal (Given × Stop)
  | [] => .ok (g, .ending)
  | word :: rest =>
    if trailing then .error (misplaced c true word)
    else if g.awaiting.isNone && c.subcommands.contains word then .ok (g, .subcommand word rest)
    else if word == "--" then readWords c true g rest
    else
      match long? word, short? word with
      | some ("help", value), _ =>
        if value.isSome then .error .tooManyValues else screen g .displayHelp
      | some (name, value), _ =>
        if name == "version" && c.version then
          if value.isSome then .error .tooManyValues else screen g .displayVersion
        else
          match c.options.find? (·.name == name) with
          | none => .error .unknownArgument
          | some o => do
            let g ← g.resolve
            match value with
            | some v => readWords c false (← g.accept o (some v)) rest
            | none => readWords c false { g with pending := some (o, none) } rest
      | none, some letter =>
        if letter == 'h' then screen g .displayHelp
        else if letter == 'V' && c.version then screen g .displayVersion
        else .error .unknownArgument
      | none, none =>
        match g.awaiting with
        | some o => readWords c false { g with pending := some (o, some word) } rest
        | none => .error (misplaced c false word)

/-! ### The program's commands -/

/-- What replaces settings for one run. -/
structure Overrides where
  databaseUrl : Option String
  logLevel : Option String
  logJson : Option Bool
  graphUrl : Option String
  webhookUrl : Option String
  fanoutWorkers : Option Nat
  queryLimit : Option Nat
  deriving DecidableEq, Inhabited

inductive Task
  /-- Applies pending migrations. -/
  | migrate
  | post (author content : String)
  | timeline (user : String)
  deriving DecidableEq, Inhabited

/-- A command line that can be run. Migrating has no overrides but those of the database and the
log. -/
structure Invocation where
  configFile : Option String
  task : Task
  overrides : Overrides
  deriving DecidableEq, Inhabited

def sharedOptions : List Flag :=
  [⟨"database-url", .text⟩, ⟨"log-level", .text⟩, ⟨"log-json", .truth⟩]

def runtimeOptions : List Flag :=
  sharedOptions ++ [⟨"social-graph-url", .text⟩, ⟨"events-webhook-url", .text⟩,
    ⟨"fanout-workers", .count⟩, ⟨"timeline-query-limit", .count⟩]

def program : Command :=
  ⟨[⟨"config-file", .path⟩], true, ["migrate", "post", "timeline", "help"]⟩

/-- Options of a subcommand, the required ones first and by themselves. -/
def required : String → List String
  | "post" => ["author", "content"]
  | "timeline" => ["user"]
  | _ => []

def subcommand (name : String) : Command :=
  ⟨(required name).map (⟨·, .text⟩) ++
    if name == "migrate" then sharedOptions else runtimeOptions, false, []⟩

/-- The variable that names the configuration file where no option does. -/
def configFileVariable : String := "MURMUR_CONFIG_FILE"

/-- Help on a subcommand. -/
def helpOn : List String → Refusal
  | [] => .displayHelp
  | name :: rest =>
    if name == "help" then helpOn rest
    else if program.subcommands.contains name && rest.isEmpty then .displayHelp
    else .invalidSubcommand

def overridesOf (g : Given) : Overrides where
  databaseUrl := g.text? "database-url"
  logLevel := g.text? "log-level"
  logJson := g.truth? "log-json"
  graphUrl := g.text? "social-graph-url"
  webhookUrl := g.text? "events-webhook-url"
  fanoutWorkers := g.count? "fanout-workers"
  queryLimit := g.count? "timeline-query-limit"

/-- Reads the words behind a subcommand. -/
def readTask (name : String) (words : List String) : Except Refusal (Task × Overrides) := do
  if name == "help" then .error (helpOn words)
  let (g, _) ← readWords (subcommand name) false .nothing words
  let g ← g.resolve
  if (required name).any fun o => (g.text? o).isNone then .error .missingRequired
  let text (o : String) : String := (g.text? o).getD ""
  let task : Task :=
    match name with
    | "post" => .post (text "author") (text "content")
    | "timeline" => .timeline (text "user")
    | _ => .migrate
  return (task, overridesOf g)

/-- Reads the words of a command line and the environment's say on the configuration file. -/
def parse (words : List String) (env : String → Option String) : Except Refusal Invocation := do
  let (g, stop) ← readWords program false .nothing words
  let run ←
    match stop with
    | .ending => pure none
    | .subcommand name rest => some <$> readTask name rest
  let g ← g.resolve
  let g ←
    match g.text? "config-file", env configFileVariable with
    | none, some path => g.accept ⟨"config-file", .path⟩ (some path)
    | _, _ => pure g
  match run with
  | none =>
    .error (if g.values.isEmpty then .displayHelpOnMissing else .missingSubcommand)
  | some (task, overrides) => return ⟨g.text? "config-file", task, overrides⟩

end Timelines.CommandLine
