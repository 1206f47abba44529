/-! Why settings cannot be loaded. -/
namespace Timelines.Settings

/-- A value of another kind than the wanted one, the key it stands at and the place it was given. -/
structure Mismatch where
  found : String
  expected : String
  key : String
  origin : Option String
  deriving DecidableEq, Inhabited

def Mismatch.message (m : Mismatch) : String :=
  "invalid type: " ++ m.found ++ ", expected " ++ m.expected ++ " for key `" ++ m.key ++ "`" ++
    match m.origin with
    | some place => " in " ++ place
    | none => ""

/-- The key of a part below another key. -/
def Mismatch.under (parent : String) (m : Mismatch) : Mismatch :=
  { m with key :=
      if m.key.isEmpty then parent
      else if m.key.startsWith "[" then parent ++ m.key
      else parent ++ "." ++ m.key }

inductive Failure
  | mismatch (m : Mismatch)
  /-- A file is not what its format says. -/
  | malformedFile (path : String)
  /-- The file that was asked for is not there. -/
  | missingFile (path : String)
  /-- A file of no known format. -/
  | unknownFormat (path : String)
  /-- A value that is not allowed. -/
  | invalid (key reason : String)
  deriving DecidableEq, Inhabited

def Failure.message : Failure → String
  | mismatch m => "failed to build configuration: " ++ m.message
  | malformedFile path => "failed to build configuration: malformed text in " ++ path
  | missingFile path =>
    "failed to build configuration: configuration file \"" ++ path ++ "\" not found"
  | unknownFormat path =>
    "failed to build configuration: configuration file \"" ++ path ++
      "\" is not of a registered file format"
  | invalid key reason => "invalid configuration for `" ++ key ++ "`: " ++ reason

end Timelines.Settings
