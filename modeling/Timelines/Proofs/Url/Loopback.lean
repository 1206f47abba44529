import Mathlib.Tactic.SplitIfs
import Timelines.Url.Parser

/-! The URL of a server on the machine itself.

`parse_loopback`: it is one. Only its host is looked up in tables of characters, and those are read
from their lists of characters (`Range.list_ofList`): a text as such takes long to take apart. -/
namespace Timelines
open Text

theorem Text.Range.list_ofList (cs : List Char) :
    Range.list (String.ofList cs) =
      ((splitAll (fun c => c == ' ' || c == '\n') cs).filter (!·.isEmpty)).filterMap
        Range.read? := by
  rw [Range.list, words, String.toList_ofList]

/-- The characters of the address. -/
def loopbackChars : List Char := ['0', '1', '2', '7']

theorem rightToLeft_of_loopback : loopbackChars.any (within rightToLeft) = false := by
  rw [rightToLeft, Range.list_ofList]
  decide +kernel

theorem arabicNumbers_of_loopback : loopbackChars.any (within arabicNumbers) = false := by
  rw [arabicNumbers, Range.list_ofList]
  decide +kernel

namespace Url

theorem turns_of_loopback {label : List Char} (h : label.all loopbackChars.contains = true) :
    Label.turns label = false := by
  rw [Label.turns, List.any_eq_false]
  intro c hc
  have hmem : c ∈ loopbackChars := by simpa using List.all_eq_true.mp h c hc
  have hright := List.any_eq_false.mp rightToLeft_of_loopback c hmem
  have harabic := List.any_eq_false.mp arabicNumbers_of_loopback c hmem
  rw [direction, if_neg hright, if_neg harabic]
  split_ifs <;> decide

theorem asciiName?_of_labels {name : List Char} {labels : List (List Char)}
    (hlabels : (splitAll (· == '.') name).mapM Label.read? = some labels)
    (hturns : labels.any Label.turns = false) :
    asciiName? name = some (List.intercalate ['.'] (labels.map Label.write)) := by
  rw [asciiName?, hlabels]
  simp only [bind, Option.bind, hturns, Bool.false_and, Bool.false_eq_true, if_false]
  rfl

theorem asciiName?_loopback : asciiName? "127.0.0.1".toList = some "127.0.0.1".toList := by
  have hturns : [['1', '2', '7'], ['0'], ['0'], ['1']].any Label.turns = false := by
    rw [List.any_eq_false]
    intro label hlabel
    have hall : [['1', '2', '7'], ['0'], ['0'], ['1']].all
        (fun label => label.all loopbackChars.contains) = true := by decide
    rw [turns_of_loopback (List.all_eq_true.mp hall label hlabel)]
    exact Bool.false_ne_true
  rw [asciiName?_of_labels (by decide +kernel) hturns]
  decide +kernel

/-- A name whose last label is a number is an address. -/
theorem Host.parse_of_ascii? {c : Char} {cs name : List Char} {n : Nat} (hc : c ≠ '[')
    (hname : ascii? (c :: cs) = some name) (hend : endsInNumber name = true)
    (hn : ipv4? name = some n) : Host.parse (c :: cs) = .ok (.ipv4 n) := by
  unfold Host.parse
  split
  next h => cases h
  next h => exact absurd (List.cons.inj h).1 hc
  next h =>
    rw [hname]
    cases name with
    | nil => cases hend
    | cons d ds => simp only [hend, if_true, hn]

theorem Host.ascii?_of_plain {cs name ascii : List Char} {text : String}
    (htext : String.fromUTF8? (ByteArray.mk (Percent.decode cs).toArray) = some text)
    (hplain : plainName? text.toList = some name) (hascii : asciiName? name = some ascii) :
    ascii? cs = some ascii := by
  simp [ascii?, htext, hplain, hascii]

theorem Host.parse_loopback : Host.parse "127.0.0.1".toList = .ok (.ipv4 2130706433) := by
  have htext : String.fromUTF8? (ByteArray.mk (Percent.decode "127.0.0.1".toList).toArray) =
      some "127.0.0.1" := by decide +kernel
  have hascii := ascii?_of_plain htext (by decide +kernel) asciiName?_loopback
  have hchars : "127.0.0.1".toList = '1' :: "27.0.0.1".toList := by decide +kernel
  rw [hchars] at hascii ⊢
  exact parse_of_ascii? (by decide) hascii (by decide +kernel) (by decide +kernel)

/-- A URL has the scheme that it begins with if its host and its port can be read. -/
theorem scheme_of_readAuthority {scheme : String} {cs hostText portText : List Char} {host : Host}
    {port : Option Nat} (hspecial : specialScheme scheme = true)
    (hcut : cutHost false (cutUserinfo
      (cut (fun c => isSlash true c || c == '?' || c == '#') cs).1).2 = (hostText, portText))
    (hhost : Host.parse hostText = .ok host)
    (hport : readPort scheme (portText.drop 1) = .ok port) :
    ∃ url, readAuthority scheme cs = .ok url ∧ url.scheme = scheme := by
  simp only [readAuthority, hspecial, if_true, hcut, hhost, hport, bind, Except.bind]
  exact ⟨_, rfl, rfl⟩

theorem parse_loopback : ∃ url, parse "http://127.0.0.1:8081" = .ok url ∧ url.scheme = "http" := by
  have hscheme : scheme? (clean "http://127.0.0.1:8081".toList) =
      some ("http", "//127.0.0.1:8081".toList) := by decide +kernel
  have hspecial : specialScheme "http" = true := by decide +kernel
  have hslashes : "//127.0.0.1:8081".toList.dropWhile (isSlash true) =
      "127.0.0.1:8081".toList := by decide +kernel
  have hcut : (cutHost false (cutUserinfo (cut (fun c => isSlash true c || c == '?' || c == '#')
      "127.0.0.1:8081".toList).1).2) = ("127.0.0.1".toList, ":8081".toList) := by decide +kernel
  have hparse : parse "http://127.0.0.1:8081" = readAuthority "http" "127.0.0.1:8081".toList := by
    unfold parse
    rw [hscheme]
    show readAfterScheme "http" "//127.0.0.1:8081".toList = _
    unfold readAfterScheme
    rw [if_neg (by decide), if_pos hspecial, hslashes]
  rw [hparse]
  have hport : readPort "http" (":8081".toList.drop 1) = .ok (some 8081) := rfl
  exact scheme_of_readAuthority hspecial hcut Host.parse_loopback hport

end Url
end Timelines
