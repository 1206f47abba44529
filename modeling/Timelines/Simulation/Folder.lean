import Timelines.Settings.File

/-! A folder that holds some files and nothing else, and in which the program works. -/
namespace Timelines.Simulation
open Settings

/-- Goes along a path from a place in the folder, the latest name first, through folders that there
are; the way does not lead out of the folder. -/
def follow (folders : List (List Char) → Bool) :
    List (List Char) → List (List Char) → Option (List (List Char))
  | place, [] => some place
  | place, name :: rest =>
    if !folders place.reverse then none
    else if name = ['.', '.'] then
      match place with
      | [] => none
      | _ :: place => follow folders place rest
    else follow folders (name :: place) rest

/-- The files of a folder by the paths that lead to them. -/
def filesOf (texts : List (String × String)) : Files := fun path =>
  let held := texts.map fun (path, text) => (names path, text)
  let isFolder (place : List (List Char)) : Bool :=
    held.any fun (file, _) => place.isPrefixOf file && place.length < file.length
  if path.startsWith "/" ∨ path.endsWith "/" ∨ path.endsWith "/." then none
  else (follow (fun place => place.isEmpty || isFolder place) [] (names path)).bind fun place =>
    held.lookup place.reverse

end Timelines.Simulation
