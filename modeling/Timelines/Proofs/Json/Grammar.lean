import Timelines.Json.Parser

/-! The grammar of JSON, apart from any reader.

Each production relates a text to what it stands for and to the text behind it. White space may
stand around every value, name and mark. What a text stands for is a document without a break. Half
of a surrogate pair can be written in a string, and spoils it.

`Writes` has all texts of a document, of which there are many; what a reader makes of them is the
concern of other modules. -/
namespace Timelines.Json.Grammar
open Text

/-- White space at the front of a text. -/
inductive Spaces : List Char → List Char → Prop
  | nothing (cs : List Char) : Spaces cs cs
  | space {c : Char} {cs rest : List Char} : isSpace c = true → Spaces cs rest →
      Spaces (c :: cs) rest

/-! ### Numbers -/

/-- A nonempty run of digits. -/
structure Digits (cs ds rest : List Char) : Prop where
  split : cs = ds ++ rest
  nonempty : ds ≠ []
  digits : ∀ c ∈ ds, Decimal.isDigit c = true

/-- The digits before the point: a zero is the only one or not the first. -/
structure Whole (cs ds rest : List Char) : Prop where
  run : Digits cs ds rest
  zero : ∀ more, ds = '0' :: more → more = []

inductive Fraction : List Char → Option (List Char) → List Char → Prop
  | absent (cs : List Char) : Fraction cs none cs
  | present {cs ds rest : List Char} : Digits cs ds rest → Fraction ('.' :: cs) (some ds) rest

/-- The sign of a power. -/
inductive Sign : List Char → Bool → List Char → Prop
  | absent {cs : List Char} : '+' ∉ cs.head? → '-' ∉ cs.head? → Sign cs false cs
  | plus (cs : List Char) : Sign ('+' :: cs) false cs
  | minus (cs : List Char) : Sign ('-' :: cs) true cs

def naturalOf (ds : List Char) : Nat := (Decimal.read? 0 ds).getD 0

def integerOf (negative : Bool) (ds : List Char) : Int :=
  if negative then -naturalOf ds else naturalOf ds

inductive Power : List Char → Option Int → List Char → Prop
  | absent (cs : List Char) : Power cs none cs
  | present {mark : Char} {cs signed ds rest : List Char} {negative : Bool} :
      mark = 'e' ∨ mark = 'E' → Sign cs negative signed → Digits signed ds rest →
      Power (mark :: cs) (some (integerOf negative ds)) rest

/-- A number without its sign. -/
inductive Numeral (negative : Bool) : List Char → Number → List Char → Prop
  | integer {cs ds rest : List Char} : Whole cs ds rest →
      Numeral negative cs (.integer negative (naturalOf ds)) rest
  | real {cs ds behind fractioned rest : List Char} {fraction : Option (List Char)}
      {power : Option Int} : Whole cs ds behind → Fraction behind fraction fractioned →
      Power fractioned power rest → (fraction.isSome || power.isSome) = true →
      Numeral negative cs
        (.real (.ofLeadingDigits negative ds (fraction.getD []) (power.getD 0))) rest

/-! ### Strings -/

/-- Four hexadecimal digits. -/
def Unit (cs : List Char) (n : Nat) (rest : List Char) : Prop :=
  ∃ ds, ds.length = 4 ∧ cs = ds ++ rest ∧ Hex.read? 0 ds = some n

/-- The code units that begin a surrogate pair. -/
abbrev High (n : Nat) : Prop := 0xD800 ≤ n ∧ n ≤ 0xDBFF

/-- The code units that end one. -/
abbrev Low (n : Nat) : Prop := 0xDC00 ≤ n ∧ n ≤ 0xDFFF

/-- The character of a surrogate pair. -/
def paired (high low : Nat) : Char :=
  Char.ofNat (0x10000 + (high - 0xD800) * 0x400 + (low - 0xDC00))

/-- What a letter behind a backslash stands for. -/
inductive Short : Char → Char → Prop
  | quote : Short '"' '"'
  | backslash : Short '\\' '\\'
  | slash : Short '/' '/'
  | backspace : Short 'b' '\x08'
  | feed : Short 'f' '\x0c'
  | line : Short 'n' '\n'
  | carriage : Short 'r' '\r'
  | tab : Short 't' '\t'

/-- No end of a surrogate pair comes next. -/
inductive Lone : List Char → Prop
  | plain {c : Char} (cs : List Char) : c ≠ '\\' → Lone (c :: cs)
  | escape {c : Char} (cs : List Char) : c ≠ 'u' → Lone ('\\' :: c :: cs)
  | unit {cs rest : List Char} {n : Nat} : Unit cs n rest → ¬Low n → Lone ('\\' :: 'u' :: cs)

/-- What follows a backslash. -/
inductive Escape : List Char → Piece → List Char → Prop
  | short {e c : Char} (rest : List Char) : Short e c → Escape (e :: rest) (.char c) rest
  | unit {cs rest : List Char} {n : Nat} : Unit cs n rest → ¬High n → ¬Low n →
      Escape ('u' :: cs) (.char (Char.ofNat n)) rest
  | pair {cs cs' rest : List Char} {high low : Nat} : Unit cs high ('\\' :: 'u' :: cs') →
      Unit cs' low rest → High high → Low low → Escape ('u' :: cs) (.char (paired high low)) rest
  | low {cs rest : List Char} {n : Nat} : Unit cs n rest → Low n → Escape ('u' :: cs) .half rest
  | high {cs rest : List Char} {n : Nat} : Unit cs n rest → High n → Lone rest →
      Escape ('u' :: cs) .half rest

/-- A text with a piece before it. -/
def before : Piece → Json.Text → Json.Text
  | .char c, t => t.map (c :: ·)
  | .half, _ => .error .malformed

/-- A string from behind its opening quote. -/
inductive Letters : List Char → Json.Text → List Char → Prop
  | close (rest : List Char) : Letters ('"' :: rest) (.ok []) rest
  | plain {c : Char} {cs rest : List Char} {t : Json.Text} : c ≠ '"' → c ≠ '\\' →
      ¬c.toNat < 0x20 → Letters cs t rest → Letters (c :: cs) (before (.char c) t) rest
  | escape {cs cs' rest : List Char} {piece : Piece} {t : Json.Text} : Escape cs piece cs' →
      Letters cs' t rest → Letters ('\\' :: cs) (before piece t) rest

/-- The string that letters make up, if they do. -/
def spelt (t : Json.Text) : Except Fault String := t.map String.ofList

/-! ### Values -/

/-- A member of an object: its name, if that is a text, and its value. -/
abbrev Entry := Except Fault String × Doc

mutual

/-- The texts of a document. -/
inductive Writes : List Char → Doc → List Char → Prop
  | null (rest : List Char) : Writes ('n' :: 'u' :: 'l' :: 'l' :: rest) .null rest
  | truth (rest : List Char) : Writes ('t' :: 'r' :: 'u' :: 'e' :: rest) (.bool true) rest
  | falsity (rest : List Char) : Writes ('f' :: 'a' :: 'l' :: 's' :: 'e' :: rest) (.bool false) rest
  | number {cs rest : List Char} {n : Number} : Numeral false cs n rest →
      Writes cs (.number n) rest
  | minus {cs rest : List Char} {n : Number} : Numeral true cs n rest →
      Writes ('-' :: cs) (.number n) rest
  | string {cs rest : List Char} {t : Json.Text} : Letters cs t rest →
      Writes ('"' :: cs) (.string (spelt t)) rest
  | emptyArray {cs rest : List Char} : Spaces cs (']' :: rest) →
      Writes ('[' :: cs) (.array [] none) rest
  | array {cs rest : List Char} {items : List Doc} : Items cs items rest →
      Writes ('[' :: cs) (.array items none) rest
  | emptyObject {cs rest : List Char} : Spaces cs ('\x7d' :: rest) →
      Writes ('\x7b' :: cs) (.object [] none) rest
  | object {cs rest : List Char} {members : List Entry} :
      Members cs members rest → Writes ('\x7b' :: cs) (.object members none) rest

/-- A value with white space around it. -/
inductive Spaced : List Char → Doc → List Char → Prop
  | mk {cs front behind rest : List Char} {d : Doc} : Spaces cs front → Writes front d behind →
      Spaces behind rest → Spaced cs d rest

/-- One item or more, with the closing bracket. -/
inductive Items : List Char → List Doc → List Char → Prop
  | last {cs rest : List Char} {d : Doc} : Spaced cs d (']' :: rest) → Items cs [d] rest
  | more {cs cs' rest : List Char} {d : Doc} {items : List Doc} : Spaced cs d (',' :: cs') →
      Items cs' items rest → Items cs (d :: items) rest

/-- A member with white space around it. -/
inductive Member : List Char → Entry → List Char → Prop
  | mk {cs name behind value rest : List Char} {t : Json.Text} {d : Doc} :
      Spaces cs ('"' :: name) → Letters name t behind → Spaces behind (':' :: value) →
      Spaced value d rest → Member cs (spelt t, d) rest

/-- One member or more, with the closing brace. -/
inductive Members : List Char → List Entry → List Char → Prop
  | last {cs rest : List Char} {m : Entry} : Member cs m ('\x7d' :: rest) →
      Members cs [m] rest
  | more {cs cs' rest : List Char} {m : Entry}
      {members : List Entry} : Member cs m (',' :: cs') →
      Members cs' members rest → Members cs (m :: members) rest

end

/-- A text holds a document and nothing else. -/
def Spells (text : String) (d : Doc) : Prop := Spaced text.toList d []

end Timelines.Json.Grammar
