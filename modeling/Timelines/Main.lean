import Timelines.Program.Process

/-! The program: its words, the environment and the files of its directory make a process, whose
lines go to the standard streams. It knows no network but an empty one. -/
namespace Timelines.Main

/-- The variables of the environment. -/
def environment : IO (List (String × String)) := do
  let entries ← try IO.FS.readFile "/proc/self/environ" catch _ => pure ""
  return (Text.splitAll (· == '\x00') entries.toList).filterMap fun entry =>
    match Text.cut (· == '=') entry with
    | (name, _ :: value) => some (String.ofList name, String.ofList value)
    | _ => none

/-- The texts of the files that are there. -/
def readAll (paths : List String) : IO (List (String × String)) := do
  let found ← paths.mapM fun (path : String) => do
    try return [(path, ← IO.FS.readFile path)] catch _ => return []
  return found.flatten

end Timelines.Main

open Timelines in
def main (words : List String) : IO UInt32 := do
  let env ← Main.environment
  let files ← Main.readAll (Program.paths words env)
  let p := Program.process words env (fun path => files.lookup path) 0 .empty
  (← IO.getStdout).putStr p.stdout
  for notice in p.log do
    (← IO.getStderr).putStrLn (notice.line p.format)
  return p.exitCode.toUInt32
