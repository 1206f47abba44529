import Timelines.Text.Blank
import Timelines.Url.Basic

/-! Reading URLs, alone or relative to a base.

Control characters and spaces around the text are dropped, and tabs and line breaks anywhere in it.
In special schemes a backslash is a slash, and any number of slashes leads to the host. -/
namespace Timelines.Url
open Text

/-- The text that is read. -/
def clean (cs : List Char) : List Char :=
  (strip (fun c => c.toNat ≤ 0x20) cs).filter fun c => c != '\t' && c != '\n' && c != '\r'

/-- A scheme and what follows its colon. -/
def scheme? (cs : List Char) : Option (String × List Char) :=
  match cs with
  | [] => none
  | c :: _ =>
    let name := cs.takeWhile fun c => c.isAlphanum || c == '+' || c == '-' || c == '.'
    match cs.drop name.length with
    | ':' :: rest => if c.isAlpha then some (String.ofList (lower name), rest) else none
    | _ => none

def isSlash (special : Bool) (c : Char) : Bool := c == '/' || (special && c == '\\')

/-! ### Paths -/

/-- A segment that means the one above, as it is written. -/
def upward (s : String) : Bool :=
  ["..", "%2e.", ".%2e", "%2e%2e"].contains (String.ofList (lower s.toList))

/-- A segment that means the path so far, as it is written. -/
def staying (s : String) : Bool := [".", "%2e"].contains (String.ofList (lower s.toList))

/-- Adds written segments to a path; the last of them ends it. -/
def addSegments (path : List String) : List String → List String
  | [] => path
  | [s] =>
    if upward s then path.dropLast ++ [""]
    else if staying s then path ++ [""]
    else path ++ [s]
  | s :: rest =>
    if upward s then addSegments path.dropLast rest
    else if staying s then addSegments path rest
    else addSegments (path ++ [s]) rest

def encodePath (cs : List Char) : String := String.ofList (Percent.encode Percent.inPath cs)

/-- A path after its first slash, put behind other segments. -/
def readPath (special : Bool) (path : List String) (cs : List Char) : List String :=
  addSegments path ((splitAll (isSlash special) cs).map encodePath)

/-! ### What follows the path -/

structure Tail where
  query : Option String
  fragment : Option String

/-- A path, and the query and the fragment behind it. -/
def cutTail (special : Bool) (cs : List Char) : List Char × Tail :=
  let (front, fragment) := cut (· == '#') cs
  let (path, query) := cut (· == '?') front
  let part (set : Char → Bool) (cs : List Char) : Option String :=
    match cs with
    | [] => none
    | _ :: rest => some (String.ofList (Percent.encode set rest))
  (path, ⟨part (Percent.inQuery special) query, part Percent.inFragment fragment⟩)

/-! ### Hosts -/

/-- The part of an authority after the last at sign, and what stands before it. -/
def cutUserinfo (cs : List Char) : List Char × List Char :=
  let host := (cs.reverse.takeWhile (· != '@')).reverse
  (cs.take (cs.length - host.length - 1), host)

/-- A host up to the colon before its port; colons in brackets do not count. -/
def cutHost (inside : Bool) : List Char → List Char × List Char
  | [] => ([], [])
  | c :: cs =>
    if c == ':' && !inside then ([], c :: cs)
    else
      let (host, rest) := cutHost (if c == '[' then true else if c == ']' then false else inside) cs
      (c :: host, rest)

/-- A port, which is dropped where it goes without saying. -/
def readPort (scheme : String) (cs : List Char) : Except Error (Option Nat) :=
  match cs with
  | [] => .ok none
  | _ =>
    match Decimal.natural? cs with
    | some n =>
      if n > 65535 then .error .invalidPort
      else .ok (if defaultPort? scheme = some n then none else some n)
    | none => .error .invalidPort

def encodeUser (cs : List Char) : String := String.ofList (Percent.encode Percent.inUserinfo cs)

/-- A URL from its host on. -/
def readAuthority (scheme : String) (cs : List Char) : Except Error Url := do
  let special := specialScheme scheme
  let (authority, rest) := cut (fun c => isSlash special c || c == '?' || c == '#') cs
  let (userinfo, hostPort) := cutUserinfo authority
  let (username, password) := cut (· == ':') userinfo
  let (hostText, portText) := cutHost false hostPort
  let lacking := !portText.isEmpty || (!userinfo.isEmpty && userinfo != [':']) ||
    (authority == ['@'] && !rest.isEmpty)
  let host ←
    if special then Host.parse hostText
    else if hostText.isEmpty && lacking then .error .emptyHost
    else Host.parseOpaque hostText
  let port ← readPort scheme (portText.drop 1)
  let (path, tail) := cutTail special rest
  return {
    scheme
    username := encodeUser username
    password := encodeUser (password.drop 1)
    host := some host
    port
    path := .segments (if !special && path.isEmpty then [] else readPath special [] (path.drop 1))
    query := tail.query
    fragment := tail.fragment }

/-- A letter that names a drive, which is no host. -/
def isDrive : List Char → Bool
  | [c, d] => c.isAlpha && (d == ':' || d == '|')
  | _ => false

/-- A URL of a file, whose host may be empty. -/
def readFile (cs : List Char) : Except Error Url := do
  let (slashes, rest) := (cs.take 2, cs.drop 2)
  if slashes.length = 2 && slashes.all (isSlash true) then
    let (front, after) := cut (fun c => isSlash true c || c == '?' || c == '#') rest
    let (hostText, rest) := if isDrive front then ([], '/' :: rest) else (front, after)
    let host ← if hostText.isEmpty then pure (Host.domain "") else Host.parse hostText
    let (path, tail) := cutTail true rest
    return ⟨"file", "", "", some (if host = .domain "localhost" then .domain "" else host), none,
      .segments (readPath true [] (path.drop 1)), tail.query, tail.fragment⟩
  else
    let (path, tail) := cutTail true cs
    let path := if path.head?.any (isSlash true) then path.drop 1 else path
    return ⟨"file", "", "", some (.domain ""), none, .segments (readPath true [] path), tail.query,
      tail.fragment⟩

/-- A URL after its scheme. -/
def readAfterScheme (scheme : String) (cs : List Char) : Except Error Url :=
  if scheme == "file" then readFile cs
  else if specialScheme scheme then readAuthority scheme (cs.dropWhile (isSlash true))
  else
    match cs with
    | '/' :: '/' :: rest => readAuthority scheme rest
    | '/' :: _ =>
      let (path, tail) := cutTail false cs
      .ok ⟨scheme, "", "", none, none, .segments (readPath false [] (path.drop 1)), tail.query,
        tail.fragment⟩
    | _ =>
      let (path, tail) := cutTail false cs
      .ok ⟨scheme, "", "", none, none,
        .plain (String.ofList (Percent.encode Percent.always path)), tail.query, tail.fragment⟩

/-- Reads a URL that stands for itself. -/
def parse (text : String) : Except Error Url :=
  match scheme? (clean text.toList) with
  | some (scheme, rest) => readAfterScheme scheme rest
  | none => .error .relative

/-! ### Relative to a base -/

def Path.parts : Path → List String
  | segments parts => parts
  | plain _ => []

/-- Reads a text as a URL relative to a base. -/
def readRelative (base : Url) (cs : List Char) : Except Error Url :=
  let special := base.special
  let slashes := cs.takeWhile (isSlash special)
  let (path, tail) := cutTail special cs
  if slashes.length ≥ 2 then readAuthority base.scheme (cs.drop slashes.length)
  else
    match path with
    | [] =>
      .ok { base with
        query := if tail.query.isSome then tail.query else base.query
        fragment := tail.fragment }
    | c :: rest =>
      let parts :=
        if isSlash special c then readPath special [] rest
        else readPath special base.path.parts.dropLast path
      .ok { base with path := .segments parts, query := tail.query, fragment := tail.fragment }

/-- The URL that a text means where it stands in the document of this URL. -/
def join (base : Url) (text : String) : Except Error Url :=
  let cs := clean text.toList
  match scheme? cs with
  | some (scheme, rest) =>
    if base.special && scheme == base.scheme && (rest.takeWhile (isSlash true)).length < 2 then
      readRelative base rest
    else readAfterScheme scheme rest
  | none => if base.canBeBase then readRelative base cs else .error .relativeToOpaque

/-! ### Segments -/

/-- The path without one empty last segment. -/
def popIfEmpty (u : Url) : Url :=
  match u.path with
  | .segments parts =>
    if parts.length > 1 && parts.getLast? == some "" then
      { u with path := .segments parts.dropLast }
    else u
  | .plain _ => u

/-- The path with one more segment, whatever characters it is made of; `.` and `..` are left out.
Tabs and line breaks vanish, and what is then a step up or none is one. -/
def push (u : Url) (segment : String) : Url :=
  match u.path with
  | .segments parts =>
    if segment == "." || segment == ".." then u
    else
      let cs := segment.toList.filter fun c => c != '\t' && c != '\n' && c != '\r'
      let parts := if parts == [""] then [] else parts
      let written := String.ofList (Percent.encode (Percent.inSegment u.special) cs)
      { u with path := .segments (addSegments parts [written]) }
  | .plain _ => u

end Timelines.Url
