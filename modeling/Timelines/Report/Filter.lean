import Timelines.Number.Bounded
import Timelines.Number.Notation
import Timelines.Report.Span
import Timelines.Settings.Basic
import Timelines.Text.Pattern
import Timelines.Text.Search

/-! Which notices are written.

A filter is a list of directives. One that names nothing but parts of the program, by the beginning
of their names, or fields of a notice says how much is written of what comes from there; of those
the most specific decides. One that names a stretch of work or its fields says how much is written
of what comes up in it, wherever that comes from. -/
namespace Timelines.Report
open Settings Text

/-- The part of the program that a notice comes from. -/
def Notice.source : Notice → String
  | .postCreated .. | .degraded .. | .publishFailed .. | .eventDropped .. =>
    "murmur::application::timeline"
  | .writeFailed .. | .fanoutCut .. => "murmur::application::fanout"
  | .eventDelivered .. => "murmur::infra::events"
  | .followerSkipped .. => "murmur::infra::graph"
  | .eventLogged .. | .eventsMissed .. | .migrationsApplied | .interrupted | .programFailed .. =>
    "murmur"

/-- Whether so much includes a level. -/
def includes : Verbosity → Level → Bool
  | .off, _ => false
  | .error, level => level = .error
  | .warn, level => level ≠ .info
  | _, _ => true

/-! ### Directives -/

/-- What a field of a stretch of work has to be. -/
inductive Demand
  | number (n : Nat)
  | pattern (p : Pattern)
  /-- A value of a kind that no field has. -/
  | unheard
  deriving DecidableEq, Inhabited

namespace Demand

/-- Numbers and truth values are taken as such, and all else as a pattern. -/
def parse? (s : String) : Option Demand :=
  if s = "true" ∨ s = "false" then some unheard
  else
    match Decimal.word? s with
    | some n => some (number n)
    | none => if (Binary64.ofText? s).isSome then some unheard else (Pattern.parse? s).map pattern

def meets : Demand → Subject → Bool
  | number n, .number m => n == m
  | pattern p, .text s => p.covers s
  | _, _ => false

end Demand

structure Directive where
  /-- How the names of the parts begin; all parts without. -/
  source : Option String
  /-- The stretch of work. -/
  span : Option String
  /-- Fields that there must be, and what they must be. -/
  fields : List (String × Option Demand)
  verbosity : Verbosity
  deriving DecidableEq, Inhabited

abbrev Filter := List Directive

namespace Directive

def startsName (c : Char) : Bool := isAlphanumeric c || c == '-' || c == ':' || c == '_'

/-- `NAME` or `NAME=VALUE`; what stands behind a second sign does not count. -/
def field? (text : List Char) : Option (String × Option Demand) :=
  match (splitAll (· == '=') text).map String.ofList with
  | [] => none
  | [name] => if name.isEmpty then none else some (name, none)
  | name :: value :: _ => (Demand.parse? value).map (name, some ·)

/-- The end of a directive: nothing, which means all, or a sign and a verbosity or nothing. -/
def readLevel? : List Char → Option Verbosity
  | [] | ['='] => some .trace
  | '=' :: cs => Verbosity.parse? (String.ofList cs)
  | _ => none

/-- What stands between square brackets and what follows: the name of a stretch of work, and fields
in curly brackets. Without fields the name counts even if it is empty. -/
def readSpan? (cs : List Char) :
    Option (Option String × List (String × Option Demand) × List Char) := do
  let (name, rest) := cut (fun c => c == ']' || c == '\x7b') cs
  match rest with
  | ']' :: rest => return (some (String.ofList name), [], rest)
  | '\x7b' :: rest =>
    let (inside, rest) := cut (· == '\x7d') rest
    let fields ← (splitAll (· == ',') inside).mapM field?
    match rest with
    | '\x7d' :: ']' :: rest =>
      return (if name.isEmpty then none else some (String.ofList name), fields, rest)
    | _ => none
  | _ => none

/-- Reads a source, a stretch of work in square brackets, or both, and how much is written; a
verbosity alone is meant for all sources. Blanks behind a verbosity spoil it, and blanks before the
directive make it one on a source that there is not. -/
def parse? (text : String) : Option Directive :=
  let cs := text.toList.dropWhile isBlank
  let blanks := (cs.reverse.takeWhile isBlank).reverse
  let (name, rest) := cut (fun c => c == '=' || c == '[') (trim text).toList
  let source := if name.isEmpty then none else some (String.ofList name)
  if !name.isEmpty ∧ !name.head?.any startsName then none
  else if text.toList.head?.any isBlank then
    if name.isEmpty ∨ !rest.isEmpty then none else some ⟨some text, none, [], .trace⟩
  else
    match source, rest with
    | none, [] => none
    | some name, [] =>
      match Verbosity.parse? text with
      | some v => some ⟨none, none, [], v⟩
      | none => some ⟨some (name ++ String.ofList blanks), none, [], .trace⟩
    | source, '[' :: rest => do
      let (span, fields, rest) ← readSpan? rest
      return ⟨source, span, fields, ← readLevel? (if rest.isEmpty then [] else rest ++ blanks)⟩
    | source, rest =>
      if name.isEmpty then none else (readLevel? (rest ++ blanks)).map (⟨source, none, [], ·⟩)

/-- Directives on stretches of work. -/
def onSpans (d : Directive) : Bool := d.span.isSome || !d.fields.isEmpty

/-- Directives on notices: fields may be named, but nothing is demanded of them. -/
def onNotices (d : Directive) : Bool := d.span.isNone && d.fields.all (·.2.isNone)

def covers (d : Directive) (source : String) : Bool :=
  match d.source with
  | some start => source.startsWith start
  | none => true

/-- Whether the directive is meant for a notice. -/
def concerns (d : Directive) (n : Notice) : Bool :=
  d.onNotices && d.covers n.source && d.fields.all (n.fieldNames.contains ·.1)

/-- Whether the directive is meant for a stretch of work. -/
def includesSpan (d : Directive) (s : Span) : Bool :=
  d.onSpans && d.covers s.source && d.span.all (· == s.name) &&
    d.fields.all fun (name, demand) =>
      match s.fields.lookup name with
      | some subject => demand.all (·.meets subject)
      | none => false

/-- A directive on a longer source, or else on more fields, is more specific; of others the order of
their fields decides. -/
def rank (d : Directive) : Nat × Nat × List String :=
  (match d.source with
    | some start => start.utf8ByteSize + 1
    | none => 0, d.fields.length, d.fields.map (·.1))

/-- Whether a directive takes precedence over an earlier one. -/
def precedes (d e : Directive) : Bool :=
  let (a, b, fs) := d.rank
  let (a', b', fs') := e.rank
  a' < a || a = a' && (b' < b || b = b' && !fs.lex fs' fun f g => decide (f < g))

end Directive

/-! ### Filters -/

namespace Filter

/-- Adds a directive, in the place of an earlier one on the same. -/
def add (f : Filter) (d : Directive) : Filter :=
  f.filter (fun e => e.source ≠ d.source || e.span ≠ d.span || e.fields ≠ d.fields) ++ [d]

/-- The directives of a text that are understood, or the fallback where there are none. -/
def parse (fallback : Verbosity) (text : Option String) : Filter :=
  let parts := (splitAll (· == ',') (text.getD "").toList).map String.ofList
  match parts.filterMap Directive.parse? with
  | [] => [⟨none, none, [], fallback⟩]
  | directives => directives.foldl add []

/-- The directive that decides on a notice: the most specific. -/
def deciding? (f : Filter) (n : Notice) : Option Directive :=
  f.foldl (fun best d =>
    if d.concerns n ∧ best.all d.precedes then some d else best) none

/-- Stretches of work are only told apart where informative notices may be written, or something is
demanded of their fields. -/
def tellsSpans (f : Filter) : Bool :=
  f.any fun d => includes d.verbosity .info || d.fields.any (·.2.isSome)

/-- Whether a notice that comes up in some stretches of work is written. -/
def passes (f : Filter) (spans : List Span) (n : Notice) : Bool :=
  (f.tellsSpans && spans.any fun s =>
    f.any fun d => d.includesSpan s && includes d.verbosity n.level) ||
  match f.deciding? n with
  | some d => includes d.verbosity n.level
  | none => false

end Filter
end Timelines.Report
