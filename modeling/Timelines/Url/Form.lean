import Timelines.Text.Search
import Timelines.Text.Utf8
import Timelines.Url.Percent

/-! Names with values in a query: pairs between ampersands, an equals sign in each, and plus signs
for spaces. -/
namespace Timelines.Url.Form
open Text

/-- A name or a value as a query holds it. -/
def decode (cs : List Char) : String :=
  Utf8.decodeMarked (Percent.decode (cs.map fun c => if c = '+' then ' ' else c))

/-- The pairs of a query. -/
def pairs (query : String) : List (String × String) :=
  ((splitAll (· == '&') query.toList).filter (!·.isEmpty)).map fun part =>
    let (name, value) := cut (· == '=') part
    (decode name, decode (value.drop 1))

end Timelines.Url.Form
