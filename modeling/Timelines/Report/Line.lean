import Timelines.Report.Filter

/-! Notices as lines of text. -/
namespace Timelines.Report
open Json

/-- How lines are written. -/
inductive Format
  /-- The format of lines that come before there are settings. -/
  | plain
  | compact
  | json
  deriving DecidableEq, Inhabited

namespace Notice

/-- The particulars as `NAME=VALUE`, with texts as they are. -/
def particulars (n : Notice) : String :=
  String.intercalate " " (n.fields.map fun (name, value) =>
    name ++ "=" ++ value.text?.getD value.compact)

/-- A line about a notice. -/
def line (format : Format) (n : Notice) : String :=
  match format with
  | .json =>
    (Value.object [("level", .string n.level.text),
      ("fields", .object (("message", .string n.message) :: n.fields)),
      ("target", .string n.source)]).compact
  | _ => n.level.text ++ " " ++ n.source ++ ": " ++ n.message ++ " " ++ n.particulars

end Notice
end Timelines.Report
