import Timelines.Text.Decimal
import Timelines.Text.Search
import Timelines.Url.Label
import Timelines.Url.Percent

/-! Hosts of URLs: domain names, and addresses of both kinds.

A name whose last label is a number is an address of four bytes. A name with characters beyond ASCII
is taken to the characters it stands for and its labels to their ASCII form. -/
namespace Timelines.Url
open Text

/-- What is wrong with a URL. -/
inductive Error
  | emptyHost
  | invalidDomain
  | invalidPort
  | invalidIpv4
  | invalidIpv6
  | invalidCharacter
  | relative
  | relativeToOpaque
  deriving DecidableEq, Inhabited

def Error.message : Error → String
  | emptyHost => "empty host"
  | invalidDomain => "invalid international domain name"
  | invalidPort => "invalid port number"
  | invalidIpv4 => "invalid IPv4 address"
  | invalidIpv6 => "invalid IPv6 address"
  | invalidCharacter => "invalid domain character"
  | relative => "relative URL without a base"
  | relativeToOpaque => "relative URL with a cannot-be-a-base base"

inductive Host
  | domain (name : String)
  | ipv4 (address : Nat)
  | ipv6 (pieces : List Nat)
  deriving DecidableEq, Inhabited

namespace Host

/-! ### Addresses of four bytes -/

/-- A number in base ten, eight after a zero, or sixteen after `0x`. -/
def number? (cs : List Char) : Option Nat :=
  let inBase (base : Nat) (ds : List Char) : Option Nat :=
    ds.foldl (fun acc c => do
      let n ← acc
      let d ← Hex.value? c
      if d < base then some (base * n + d) else none) (some 0)
  match cs with
  | [] => none
  | '0' :: 'x' :: ds | '0' :: 'X' :: ds => inBase 16 ds
  | '0' :: d :: ds => inBase 8 (d :: ds)
  | ds => inBase 10 ds

/-- Labels, without an empty last one. -/
def labels (cs : List Char) : List (List Char) :=
  let parts := splitAll (· == '.') cs
  if parts.getLast? = some [] then parts.dropLast else parts

def endsInNumber (cs : List Char) : Bool :=
  match (labels cs).getLast? with
  | some last => (!last.isEmpty && last.all Decimal.isDigit) || (number? last).isSome
  | none => false

/-- Up to four numbers; the last fills the bytes that are left. -/
def ipv4? (cs : List Char) : Option Nat := do
  let numbers ← (labels cs).mapM number?
  let last ← numbers.getLast?
  let front := numbers.dropLast
  if numbers.length > 4 ∨ front.any (· > 255) ∨ Nat.pow 256 (4 - front.length) ≤ last then none
  else
    some (front.zipIdx.foldl (fun sum (n, i) => sum + n * Nat.pow 256 (3 - i)) last)

def ipv4Text (n : Nat) : String :=
  String.intercalate "." ([n / 16777216, n / 65536 % 256, n / 256 % 256, n % 256].map toString)

/-! ### Addresses of eight pieces -/

/-- A dotted address at the end, as two pieces. -/
def embedded? (cs : List Char) : Option (List Nat) := do
  let numbers ← (splitAll (· == '.') cs).mapM fun ds =>
    if ds.length > 3 ∨ (ds.length > 1 ∧ ds.head? = some '0') then none else Decimal.natural? ds
  match numbers with
  | [a, b, c, d] =>
    if a > 255 ∨ b > 255 ∨ c > 255 ∨ d > 255 then none else some [256 * a + b, 256 * c + d]
  | _ => none

/-- Pieces between colons. -/
def pieces? (cs : List Char) : Option (List Nat) :=
  if cs.isEmpty then some []
  else
    let parts := splitAll (· == ':') cs
    let piece? (ds : List Char) : Option (List Nat) :=
      if ds.isEmpty ∨ ds.length > 4 then none else (Hex.read? 0 ds).map ([·])
    match parts.getLast? with
    | none => none
    | some last => do
      let front ← parts.dropLast.mapM piece?
      let back ← if last.contains '.' then embedded? last else piece? last
      return front.flatten ++ back

/-- Eight pieces, or fewer with `::` in the place of zeros. -/
def ipv6? (cs : List Char) : Option (List Nat) :=
  match splitFirst? [':', ':'] cs with
  | none => (pieces? cs).bind fun ps => if ps.length = 8 then some ps else none
  | some (before, after) => do
    let front ← pieces? before
    let back ← pieces? after
    if before.contains '.' ∨ front.length + back.length > 7 then none
    else some (front ++ List.replicate (8 - front.length - back.length) 0 ++ back)

/-- The length of the run of zeros at the front. -/
def zeros (ps : List Nat) : Nat := (ps.takeWhile (· == 0)).length

/-- Where the first of the longest runs of at least two zeros begins. -/
def longestRun? (ps : List Nat) : Option Nat :=
  let runs := (List.range ps.length).map fun i => (i, zeros (ps.drop i))
  let best := runs.foldl (fun best r => if r.2 > best.2 then r else best) (0, 1)
  if best.2 ≥ 2 then some best.1 else none

def pieceText (n : Nat) : String := String.ofList (Nat.toDigits 16 n)

def ipv6Text (ps : List Nat) : String :=
  let join (qs : List Nat) : String := String.intercalate ":" (qs.map pieceText)
  match longestRun? ps with
  | none => join ps
  | some i => join (ps.take i) ++ "::" ++ join (ps.drop (i + zeros (ps.drop i)))

/-! ### Names -/

/-- A name in ASCII and lower case, given with bytes of it in hexadecimal. -/
def ascii? (cs : List Char) : Option (List Char) := do
  let text ← String.fromUTF8? (ByteArray.mk (Percent.decode cs).toArray)
  asciiName? (← plainName? text.toList)

/-- The host of a URL whose scheme is special. -/
def parse (cs : List Char) : Except Error Host :=
  match cs with
  | [] => .error .emptyHost
  | '[' :: rest =>
    if rest.getLast? = some ']' then
      match ipv6? rest.dropLast with
      | some ps => .ok (.ipv6 ps)
      | none => .error .invalidIpv6
    else .error .invalidIpv6
  | cs =>
    match ascii? cs with
    | none => .error .invalidDomain
    | some [] => .error .emptyHost
    | some name =>
      if endsInNumber name then
        match ipv4? name with
        | some n => .ok (.ipv4 n)
        | none => .error .invalidIpv4
      else .ok (.domain (String.ofList name))

/-- The host of any other URL, which is taken as it is. -/
def parseOpaque (cs : List Char) : Except Error Host :=
  match cs with
  | '[' :: _ => parse cs
  | cs =>
    if cs.any fun c => c.toNat = 0 || " #/:<>?@[\\]^|".toList.contains c then
      .error .invalidCharacter
    else .ok (.domain (String.ofList (Percent.encode Percent.always cs)))

def text : Host → String
  | domain name => name
  | ipv4 n => ipv4Text n
  | ipv6 ps => "[" ++ ipv6Text ps ++ "]"

end Host
end Timelines.Url
