import Timelines.Ini
import Timelines.Json5
import Timelines.Ron
import Timelines.Settings.Failure
import Timelines.Settings.Node
import Timelines.Toml.Parser
import Timelines.Yaml.Parser

/-! Files of settings: where they are looked for, and the formats they are in.

A file is one of exactly the path that was given, or else one with the ending of a format more. -/
namespace Timelines.Settings
open Text

/-! ### Formats -/

inductive Format
  | toml
  | json
  | yaml
  | ini
  | ron
  | json5
  deriving DecidableEq, Inhabited

/-- Formats by the endings of file names, in the order in which they are tried. -/
def formats : List (String × Format) :=
  [("toml", .toml), ("json", .json), ("yaml", .yaml), ("yml", .yaml), ("ini", .ini), ("ron", .ron),
    ("json5", .json5)]

/-! ### Paths -/

/-- The names that a path leads through; those that lead nowhere are left out. -/
def names (path : String) : List (List Char) :=
  (splitAll (· == '/') path.toList).filter fun name => !name.isEmpty && name != ['.']

/-- A path of names, from the root where another is. -/
def joined (path : String) (names : List (List Char)) : String :=
  (if path.startsWith "/" then "/" else "") ++
    String.intercalate "/" (names.map String.ofList)

/-- A path as messages have it. -/
def shownPath (path : String) : String := joined path (names path)

/-- The ending of a file's name, if it has one. -/
def ending (path : String) : String :=
  match (names path).getLast? with
  | some name =>
    let last := (name.reverse.takeWhile (· != '.')).reverse
    if last.length + 1 < name.length then String.ofList last else ""
  | none => ""

/-- A path with an ending more; there is none for a path that leads up. -/
def withEnding (path ending : String) : Option String :=
  match (names path).getLast? with
  | some ['.', '.'] | none => none
  | some _ => some (shownPath path ++ "." ++ ending)

/-- The paths that a search may look at. -/
def candidates (path : String) : List String :=
  path :: formats.filterMap fun (ending, _) => withEnding path ending

/-! ### Finding -/

/-- Files by their paths. -/
abbrev Files := String → Option String

/-- A file that was found: its path, format and text. -/
structure Found where
  path : String
  format : Format
  text : String

/-- The file of exactly that path, or else of one with an ending more. -/
def find (files : Files) (path : String) : Except Failure Found :=
  match files path with
  | some text =>
    match formats.lookup (ending path) with
    | some format => .ok ⟨shownPath path, format, text⟩
    | none => .error (.unknownFormat path)
  | none =>
    let found? := formats.findSome? fun (ending, format) => do
      let path ← withEnding path ending
      return ⟨path, format, ← files path⟩
    match found? with
    | some found => .ok found
    | none => .error (.missingFile path)

/-! ### Reading -/

namespace Node

mutual

def ofToml (origin : String) : Toml.Value → Node
  | .string s | .date s => scalar origin (.text s)
  | .integer n => scalar origin (.int n)
  | .float x => scalar origin (.float x)
  | .bool b => scalar origin (.bool b)
  | .array items => list origin (ofTomlItems origin items)
  | .table es => table (ofTomlEntries origin es)

def ofTomlItems (origin : String) : List Toml.Value → List Node
  | [] => []
  | v :: rest => ofToml origin v :: ofTomlItems origin rest

def ofTomlEntries (origin : String) : List (String × Toml.Value) → List (String × Node)
  | [] => []
  | (k, v) :: rest => (k, ofToml origin v) :: ofTomlEntries origin rest

end

mutual

def ofTree (origin : String) : Tree → Node
  | .null => null
  | .bool b => scalar origin (.bool b)
  | .int n => scalar origin (.int n)
  | .float x => scalar origin (.float x)
  | .text s => scalar origin (.text s)
  | .list items => list origin (ofTreeItems origin items)
  | .table es => table (ofTreeEntries origin es)

def ofTreeItems (origin : String) : List Tree → List Node
  | [] => []
  | t :: rest => ofTree origin t :: ofTreeItems origin rest

def ofTreeEntries (origin : String) : List (String × Tree) → List (String × Node)
  | [] => []
  | (k, t) :: rest => (k, ofTree origin t) :: ofTreeEntries origin rest

end

end Node

/-- A text without the mark of its byte order that may begin it. -/
def withoutMark (text : String) : String :=
  match text.toList with
  | '\ufeff' :: rest => String.ofList rest
  | _ => text

/-- The entries of a text in a format. -/
def Format.entries? (format : Format) (origin text : String) : Option (List (String × Node)) :=
  match format with
  | .toml => (Toml.parse? text).map (Node.ofTomlEntries origin)
  | .json =>
    match Json.Value.parse? text with
    | some (.object members) => some (Node.ofJsonMembers origin members)
    | _ => none
  | .yaml => (Yaml.parse? text).map (Node.ofTreeEntries origin)
  | .ini => (Ini.parse? text).map (Node.ofTreeEntries origin)
  | .ron => (Ron.parse? text).map (Node.ofTreeEntries origin)
  | .json5 => (Json5.parse? text).map (Node.ofTreeEntries origin)

/-- The entries of a file. -/
def Found.read (f : Found) : Except Failure (List (String × Node)) :=
  match f.format.entries? f.path (withoutMark f.text) with
  | some entries => .ok entries
  | none => .error (.malformedFile f.path)

end Timelines.Settings
