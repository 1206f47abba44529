import Timelines.Url.Basic

/-! URLs that requests can be made for.

A request is made for a URL whose text has an authority: a user, a host and a port as they stand
behind the two slashes. A text without slashes counts as one if all of it is an authority. -/
namespace Timelines.Http

/-- Characters of an authority that mean nothing to it. -/
def plainInAuthority (c : Char) : Bool := c.isAlphanum || "!$&'()*+,-.;=_~".toList.contains c

/-- What was met in an authority: colons since the last at sign or bracket, whether brackets were
opened and closed, and whether a percent sign stands outside a user's name. -/
structure AuthorityScan where
  colons : Nat
  opened : Bool
  closed : Bool
  percent : Bool
  /-- The last character was an at sign. -/
  atSign : Bool

namespace AuthorityScan

def start : AuthorityScan := ⟨0, false, false, false, false⟩

def step? (s : AuthorityScan) (c : Char) : Option AuthorityScan :=
  let s := { s with atSign := false }
  if c = ':' then if s.colons < 8 then some { s with colons := s.colons + 1 } else none
  else if c = '[' then if s.percent ∨ s.opened then none else some { s with opened := true }
  else if c = ']' then
    if !s.opened ∨ s.closed then none
    else some { s with closed := true, colons := 0, percent := false }
  else if c = '@' then some { s with colons := 0, percent := false, atSign := true }
  else if c = '%' then some { s with percent := true }
  else if plainInAuthority c then some s
  else none

/-- Whether what was met is an authority as it stands. -/
def complete (s : AuthorityScan) : Bool :=
  s.opened == s.closed && s.colons ≤ 1 && !s.atSign && !s.percent

end AuthorityScan

/-- Whether a text is an authority. -/
def isAuthority (cs : List Char) : Bool :=
  !cs.isEmpty && (cs.foldlM AuthorityScan.step? .start).any (·.complete)

end Timelines.Http

namespace Timelines.Url

/-- The authority of a URL as it stands in its text; without a host it is all of the text. -/
def authorityText (u : Url) : String :=
  match u.host with
  | some _ => String.ofList (u.hostText.toList.drop 2)
  | none => u.text

/-- Whether a request can be made for a URL. -/
def requestable (u : Url) : Bool :=
  u.scheme.length ≤ 64 && Http.isAuthority u.authorityText.toList

end Timelines.Url
