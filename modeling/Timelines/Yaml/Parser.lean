import Timelines.Text.Blank
import Timelines.Text.Search
import Timelines.Yaml.Scalar

/-! Reading documents of YAML.

A collection in lines is told by the column that its entries begin in, and what belongs to an entry
stands further to the right. A word is a key if a colon with a blank behind it follows on the same
line. -/
namespace Timelines.Yaml
open Text

/-! ### Reading -/

inductive Node
  | scalar (value : Scalar)
  | list (items : List Tree)
  | table (entries : List (String × Tree))
  deriving Inhabited

/-- The value of a node, if it has one. -/
def Node.toTree? : Node → Option Tree
  | scalar s => s.toTree?
  | list items => some (.list items)
  | table entries => some (.table entries)

structure State where
  rest : List Char
  column : Nat
  line : Nat
  /-- The indentation of the line holds a tab. -/
  tabbed : Bool
  anchors : List (String × Node)
  /-- What the handles of tags stand for. -/
  handles : List (String × String)
  deriving Inhabited

abbrev Reader := StateT State Option

def failure : Reader α := fun _ => none

def require (p : Bool) : Reader Unit := if p then return else failure

def peek? (i : Nat) : Reader (Option Char) := return (← get).rest[i]?

/-- Takes characters. -/
def skip : Nat → Reader Unit
  | 0 => return
  | n + 1 => do
    modify fun s =>
      match s.rest with
      | [] => s
      | '\n' :: rest => { s with rest, column := 0, line := s.line + 1, tabbed := false }
      | _ :: rest => { s with rest, column := s.column + 1 }
    skip n

/-- Takes the characters at the front that `p` picks. -/
def takeWhile (p : Char → Bool) : Reader (List Char) := do
  let front := (← get).rest.takeWhile p
  skip front.length
  return front

def isSpace (c : Char) : Bool := c == ' ' || c == '\t'

/-- Blanks, line breaks and the end. -/
def apart : Option Char → Bool
  | none => true
  | some c => isSpace c || c == '\n'

/-- Marks that stand for themselves within brackets. -/
def isFlowMark (c : Char) : Bool := ",[]\x7b\x7d".toList.contains c

/-- Whether a line that begins or ends a document stands here. -/
def atMarker : Reader Bool := do
  let s ← get
  let mark := String.ofList (s.rest.take 3)
  return s.column == 0 && (mark == "---" || mark == "...") && apart s.rest[3]?

/-- Nothing more is to come in the document. -/
def atEnd : Reader Bool := do return (← get).rest.isEmpty || (← atMarker)

/-! ### Between the words -/

/-- Takes blanks; tells whether a comment may begin. -/
def skipSpaces : Reader Bool := do
  let column := (← get).column
  let front ← takeWhile isSpace
  return column == 0 || !front.isEmpty

/-- Takes blanks, comments and line breaks. -/
def separate : Nat → Reader Unit
  | 0 => return
  | fuel + 1 => do
    let column := (← get).column
    let front ← takeWhile isSpace
    if column == 0 && front.contains '\t' then modify fun s => { s with tabbed := true }
    if (column == 0 || !front.isEmpty) && (← peek? 0) == some '#' then
      discard (takeWhile (· != '\n'))
    if (← peek? 0) == some '\n' then
      skip 1
      separate fuel

def separateAll : Reader Unit := do separate ((← get).rest.length + 1)

/-- Nothing but a comment may follow on the line; it is taken. -/
def endLine : Reader Unit := do
  let mayComment ← skipSpaces
  match ← peek? 0 with
  | none | some '\n' => return
  | some c =>
    require (c == '#' && mayComment)
    discard (takeWhile (· != '\n'))

/-- Takes line breaks and the blanks around them; tells how many breaks there were. -/
def breaks : Nat → Reader Nat
  | 0 => return 0
  | fuel + 1 => do
    discard (takeWhile isSpace)
    if (← peek? 0) == some '\n' then
      skip 1
      return (← breaks fuel) + 1
    else return 0

/-! ### Scalars in quotes -/

def code? (width : Nat) : Reader (List Char) := do
  let digits := (← get).rest.take width
  match Hex.read? 0 digits with
  | some n =>
    require (digits.length == width && !(0xD800 ≤ n && n ≤ 0xDFFF) && n < 0x110000)
    skip width
    return [Char.ofNat n]
  | none => failure

/-- What an escape stands for; its backslash was taken. -/
def escape : Reader (List Char) := do
  let some c ← peek? 0 | failure
  skip 1
  match c with
  | '0' => return ['\x00']
  | 'a' => return ['\x07']
  | 'b' => return ['\x08']
  | 't' | '\t' => return ['\t']
  | 'n' => return ['\n']
  | 'v' => return ['\x0b']
  | 'f' => return ['\x0c']
  | 'r' => return ['\r']
  | 'e' => return ['\x1b']
  | ' ' | '"' | '/' | '\\' => return [c]
  | 'N' => return ['\u0085']
  | '_' => return ['\u00a0']
  | 'L' => return ['\u2028']
  | 'P' => return ['\u2029']
  | 'x' => code? 2
  | 'u' => code? 4
  | 'U' => code? 8
  | _ => failure

/-- Where text goes on behind a line break, it stands to the right of the indentation and is no mark
of a document. -/
def goesOn (indent : Int) : Reader Unit := do
  let s ← get
  require (indent < s.column && !(← atMarker))

/-- A scalar up to its quote. -/
def quotedOn (quote : Char) (indent : Int) : Nat → Reader (List Char)
  | 0 => failure
  | fuel + 1 => do
    let s ← get
    match s.rest with
    | [] => failure
    | '\'' :: '\'' :: _ =>
      if quote = '\'' then
        skip 2
        return '\'' :: (← quotedOn quote indent fuel)
      else
        skip 1
        return '\'' :: (← quotedOn quote indent fuel)
    | c :: _ =>
      if c = quote then
        skip 1
        return []
      else if c = '\\' ∧ quote = '"' then
        skip 1
        if (← peek? 0) == some '\n' then
          let n ← breaks s.rest.length
          goesOn indent
          return List.replicate (n - 1) '\n' ++ (← quotedOn quote indent fuel)
        else
          let front ← escape
          return front ++ (← quotedOn quote indent fuel)
      else if isSpace c ∨ c = '\n' then
        let front ← takeWhile isSpace
        if (← peek? 0) == some '\n' then
          let n ← breaks s.rest.length
          goesOn indent
          return folded n ++ (← quotedOn quote indent fuel)
        else return front ++ (← quotedOn quote indent fuel)
      else
        skip 1
        return c :: (← quotedOn quote indent fuel)

/-! ### Scalars without quotes -/

/-- Whether a scalar may begin here. -/
def startsPlain (flow : Bool) (cs : List Char) : Bool :=
  match cs with
  | [] => false
  | c :: rest =>
    if "-?:".toList.contains c then
      !apart rest.head? && !(flow && rest.head?.any isFlowMark)
    else !isSpace c && c != '\n' && !",[]\x7b\x7d#&*!|>'\"%@\x60".toList.contains c

/-- The words of one line. A colon with a blank behind it ends them, and so does a number sign with
a blank before it. -/
def plainLine (flow : Bool) : List Char → List Char
  | [] => []
  | c :: cs =>
    if c = '\n' then []
    else if c = ':' ∧ (apart cs.head? ∨ flow ∧ cs.head?.any isFlowMark) then []
    else if flow ∧ isFlowMark c then []
    else if isSpace c ∧ (cs.dropWhile isSpace).head? = some '#' then []
    else c :: plainLine flow cs

/-- Words and those that go on with them on further lines. -/
def plainOn (flow : Bool) (indent : Int) : Nat → Reader (List Char)
  | 0 => failure
  | fuel + 1 => do
    let s ← get
    let words := plainLine flow s.rest
    let words := (words.reverse.dropWhile isSpace).reverse
    skip words.length
    let s ← get
    let n ← breaks s.rest.length
    let t ← get
    let more := n != 0 && indent < t.column && !(← atMarker) && t.rest.head? != some '#' &&
      !(plainLine flow t.rest).isEmpty
    if more then return words ++ folded n ++ (← plainOn flow indent fuel)
    else
      set s
      return words

/-- A scalar without quotes, which for a key ends with the line. -/
def plain (flow key : Bool) (indent : Int) : Reader String := do
  let s ← get
  require (startsPlain flow s.rest)
  require (!flow || indent < s.column)
  if key then
    let words := plainLine flow s.rest
    let words := (words.reverse.dropWhile isSpace).reverse
    skip words.length
    return String.ofList words
  else return String.ofList (← plainOn flow indent (s.rest.length + 1))

/-! ### Blocks -/

/-- What stands behind the sign of a block: an indentation and what is done with line breaks. -/
def blockHeader (found : Option Nat × Option Chomping) :
    Nat → Reader (Option Nat × Option Chomping)
  | 0 => return found
  | fuel + 1 => do
    match ← peek? 0, found with
    | some '+', (d, none) =>
      skip 1
      blockHeader (d, some .keep) fuel
    | some '-', (d, none) =>
      skip 1
      blockHeader (d, some .strip) fuel
    | some c, (none, chomping) =>
      if c.isDigit && c != '0' then
        skip 1
        blockHeader (some (c.toNat - 48), chomping) fuel
      else return found
    | _, _ => return found

/-- The indentation of a block that does not say it: that of its first line with words. Blank lines
before it may not reach further. -/
def detect (least widest : Nat) : List (List Char) → Option Nat
  | [] => some (max least widest)
  | line :: rest =>
    let spaces := (line.takeWhile (· == ' ')).length
    if spaces = line.length then detect least (max widest spaces) rest
    else if spaces < least then some (max least widest)
    else if spaces < widest then none
    else some spaces

/-- Whether a line belongs to a block. -/
def inBlock (indent : Nat) (line : List Char) : Bool :=
  line.all (· == ' ') || indent ≤ (line.takeWhile (· == ' ')).length

/-- A block behind its sign. -/
def block (fold : Bool) (indent : Int) : Reader String := do
  let (size, chomping) ← blockHeader (none, none) 2
  endLine
  skip 1
  let s ← get
  let least := (indent + 1).toNat
  let all := splitAll (· == '\n') s.rest
  -- What stands behind the last line break is no line unless it holds words.
  let all := if all.getLast?.all (·.all (· == ' ')) then all.dropLast else all
  let some width := (match size with
    | some d => some ((max indent 0).toNat + d)
    | none => detect least 0 all) | failure
  let marker (line : List Char) : Bool :=
    let mark := String.ofList (line.take 3)
    (mark == "---" || mark == "...") && apart (line.drop 3).head?
  let lines := all.takeWhile fun line => inBlock width line && !marker line
  skip (lines.foldl (fun n line => n + line.length + 1) 0)
  return blockText fold (chomping.getD .clip) (lines.map (·.drop width))

/-! ### Properties -/

/-- The tag of a node and the name that it is referred to by. -/
structure Properties where
  tag : Option String
  anchor : Option String
  deriving Inhabited

/-- What a tag is short for. -/
def tagText (handles : List (String × String)) (word : String) : Option String :=
  let cs := word.toList
  match cs with
  | '!' :: '<' :: rest =>
    if rest.getLast? = some '>' then some (String.ofList rest.dropLast) else none
  | '!' :: rest =>
    match cut (· == '!') rest with
    | (name, '!' :: suffix) =>
      let handle := "!" ++ String.ofList name ++ "!"
      if suffix.isEmpty then none
      else ((handles.lookup handle).map (· ++ String.ofList suffix))
    | (suffix, _) => some ((handles.lookup "!").getD "!" ++ String.ofList suffix)
  | _ => none

/-- Properties on one line. -/
def properties (flow : Bool) (found : Properties) : Nat → Reader Properties
  | 0 => return found
  | fuel + 1 => do
    let word := (← get).rest.takeWhile fun c => !apart (some c) && !(flow && isFlowMark c)
    match word, found with
    | '&' :: name, { anchor := none, .. } =>
      require !name.isEmpty
      skip word.length
      discard skipSpaces
      properties flow { found with anchor := some (String.ofList name) } fuel
    | '!' :: _, { tag := none, .. } =>
      match tagText (← get).handles (String.ofList word) with
      | none => failure
      | some tag =>
        skip word.length
        discard skipSpaces
        properties flow { found with tag := some tag } fuel
    | _, _ => return found

/-- Remembers a node under its name. -/
def Properties.name (p : Properties) (n : Node) : Reader Node := do
  if let some name := p.anchor then
    modify fun s => { s with anchors := (name, n) :: s.anchors }
  return n

/-- The scalar of words without quotes. -/
def Properties.scalar (p : Properties) (words : String) : Scalar :=
  match p.tag with
  | some tag => .ofTagged tag words
  | none => .ofPlain words

/-- The node that a name refers to. -/
def referred (flow : Bool) : Reader Node := do
  let name ← takeWhile fun c => !apart (some c) && !(flow && isFlowMark c)
  match (← get).anchors.lookup (String.ofList name) with
  | some n => return n
  | none => failure

/-! ### Tables -/

abbrev Entries := List (Scalar × Tree)

/-- Adds an entry with a key that there is not. -/
def addEntry (es : Entries) (key : Node) (value : Node) : Reader Entries := do
  match key, value.toTree? with
  | .scalar k, some v =>
    require (k.key?.isSome && !es.any (·.1 == k))
    return es ++ [(k, v)]
  | _, _ => failure

def tableOf (es : Entries) : Node :=
  match Tree.ofEntries (es.filterMap fun (k, v) => k.key?.map (·, v)) with
  | .table entries => .table entries
  | _ => .table []

def addItem (items : List Tree) (n : Node) : Reader (List Tree) :=
  match n.toTree? with
  | some v => return items ++ [v]
  | none => failure

/-! ### Within brackets -/

mutual

/-- A node within brackets or on one line. -/
def flowNode (key : Bool) (flow : Bool) (indent : Int) : Nat → Reader Node
  | 0 => failure
  | fuel + 1 => do
    let p ← properties flow ⟨none, none⟩ 2
    if flow && !key && (p.tag.isSome || p.anchor.isSome) then separateAll
    let s ← get
    match s.rest with
    | '*' :: _ =>
      require (p.tag.isNone && p.anchor.isNone)
      skip 1
      referred flow
    | '[' :: _ =>
      skip 1
      p.name (← flowList [] indent fuel)
    | '\x7b' :: _ =>
      skip 1
      p.name (← flowTable [] indent fuel)
    | '"' :: _ =>
      skip 1
      let cs ← quotedOn '"' indent (s.rest.length + 1)
      p.name (.scalar (.text (String.ofList cs)))
    | '\'' :: _ =>
      skip 1
      let cs ← quotedOn '\'' indent (s.rest.length + 1)
      p.name (.scalar (.text (String.ofList cs)))
    | cs =>
      if startsPlain flow cs then p.name (.scalar (p.scalar (← plain flow key indent)))
      else
        -- Properties may stand without a scalar.
        require (p.tag.isSome || p.anchor.isSome)
        p.name (.scalar (p.scalar ""))

/-- Items up to the closing bracket. -/
def flowList (items : List Tree) (indent : Int) : Nat → Reader Node
  | 0 => failure
  | fuel + 1 => do
    separateAll
    require (!(← atEnd) && indent ≤ (← get).column)
    match ← peek? 0 with
    | some ']' =>
      skip 1
      return .list items
    | _ =>
      let explicit := (← peek? 0) == some '?' && apart (← peek? 1)
      if explicit then
        skip 1
        separateAll
      let s ← get
      let item ← flowNode false true indent fuel
      let quick := s.rest.head?.any "\"'[\x7b".toList.contains
      let t ← get
      if explicit then separateAll else discard skipSpaces
      let next ← peek? 1
      let item ←
        if (← peek? 0) == some ':' && (quick || apart next || next.any isFlowMark) &&
            (explicit || (← get).line == s.line) then do
          skip 1
          separateAll
          let value ← flowValue indent fuel
          pure (tableOf (← addEntry [] item value))
        else if explicit then pure (tableOf (← addEntry [] item (.scalar .null)))
        else do
          set t
          pure item
      let items ← addItem items item
      separateAll
      match ← peek? 0 with
      | some ',' =>
        skip 1
        flowList items indent fuel
      | some ']' =>
        skip 1
        return .list items
      | _ => failure

/-- Entries up to the closing bracket. -/
def flowTable (es : Entries) (indent : Int) : Nat → Reader Node
  | 0 => failure
  | fuel + 1 => do
    separateAll
    require (!(← atEnd) && indent ≤ (← get).column)
    match ← peek? 0 with
    | some '\x7d' =>
      skip 1
      return tableOf es
    | _ =>
      if (← peek? 0) == some '?' && apart (← peek? 1) then
        skip 1
        separateAll
      let quick := (← peek? 0).any "\"'[\x7b".toList.contains
      let key ← flowNode false true indent fuel
      separateAll
      let next ← peek? 1
      let value ←
        if (← peek? 0) == some ':' && (quick || apart next || next.any isFlowMark) then do
          skip 1
          separateAll
          flowValue indent fuel
        else pure (.scalar .null)
      let es ← addEntry es key value
      separateAll
      match ← peek? 0 with
      | some ',' =>
        skip 1
        flowTable es indent fuel
      | some '\x7d' =>
        skip 1
        return tableOf es
      | _ => failure

/-- The value behind a colon within brackets, which may be missing. -/
def flowValue (indent : Int) : Nat → Reader Node
  | 0 => failure
  | fuel + 1 => do
    match ← peek? 0 with
    | some c =>
      if c = ',' ∨ c = ']' ∨ c = '\x7d' then return .scalar .null
      else flowNode false true indent fuel
    | none => failure

end

/-! ### In lines -/

/-- A key on one line, with the colon behind it. -/
def lineKey (indent : Int) (fuel : Nat) : Reader Node := do
  let s ← get
  let key ← flowNode true false indent fuel
  discard skipSpaces
  let t ← get
  require (t.line == s.line && t.rest.head? == some ':' && apart t.rest[1]?)
  skip 1
  return key

/-- Whether a key stands here. -/
def atKey (indent : Int) (fuel : Nat) : Reader Bool := do
  let s ← get
  return (lineKey indent fuel s).isSome

/-- Whether a mark with a blank behind it stands here. -/
def atMark (c : Char) : Reader Bool := do
  return (← peek? 0) == some c && apart (← peek? 1)

mutual

/-- A node that belongs to a line with an indentation. Collections in lines may begin on the same
line where `inside` says so; a list may stand at the same indentation where `level` does. -/
def node (indent : Int) (inside level : Bool) (p : Properties) : Nat → Reader Node
  | 0 => failure
  | fuel + 1 => do
    let line := (← get).line
    separateAll
    let s ← get
    let fresh := inside || s.line != line
    let listed ← atMark '-'
    let here := indent < s.column || level && s.line != line && indent == s.column && listed
    if (← atEnd) || (s.line != line && !here) then p.name (.scalar (p.scalar ""))
    else if listed then
      require (fresh && !s.tabbed)
      p.name (← items s.column [] fuel)
    else if (← atMark '?') || (← atKey s.column fuel) then
      require (fresh && !s.tabbed)
      p.name (← entries s.column [] fuel)
    else
      let q ← properties false p 2
      let t ← get
      let marked := q.tag.isSome != p.tag.isSome || q.anchor.isSome != p.anchor.isSome
      if marked && (t.rest.isEmpty || t.rest.head? == some '\n' || t.rest.head? == some '#') then
        discard (takeWhile (· != '\n'))
        node indent false level q fuel
      else leaf indent q fuel

/-- A node that is no collection in lines. -/
def leaf (indent : Int) (p : Properties) : Nat → Reader Node
  | 0 => failure
  | fuel + 1 => do
    match ← peek? 0 with
    | some '|' =>
      skip 1
      let words ← block false indent
      p.name (.scalar (.text words))
    | some '>' =>
      skip 1
      let words ← block true indent
      p.name (.scalar (.text words))
    | some c =>
      let n ←
        if c = '*' ∨ c = '[' ∨ c = '\x7b' ∨ c = '"' ∨ c = '\'' then
          require (c != '*' || p.tag.isNone && p.anchor.isNone)
          flowNode false false indent fuel
        else pure (.scalar (p.scalar (← plain false false indent)))
      endLine
      p.name n
    | none => failure

/-- The items of a list whose marks stand in a column. -/
def items (column : Nat) (found : List Tree) : Nat → Reader Node
  | 0 => failure
  | fuel + 1 => do
    skip 1
    let found ← addItem found (← node column true false ⟨none, none⟩ fuel)
    separateAll
    let s ← get
    if (← atEnd) || s.column < column then return .list found
    else
      require (s.column == column && !s.tabbed)
      if ← atMark '-' then items column found fuel else return .list found

/-- The entries of a table whose keys begin in a column. -/
def entries (column : Nat) (found : Entries) : Nat → Reader Node
  | 0 => failure
  | fuel + 1 => do
    let found ←
      if ← atMark '?' then do
        skip 1
        let key ← node column true false ⟨none, none⟩ fuel
        separateAll
        if (← get).column == column && (← atMark ':') then
          skip 1
          addEntry found key (← node column true true ⟨none, none⟩ fuel)
        else addEntry found key (.scalar .null)
      else do
        let key ← lineKey column fuel
        addEntry found key (← node column false true ⟨none, none⟩ fuel)
    separateAll
    let s ← get
    if (← atEnd) || s.column < column then return tableOf found
    else
      require (s.column == column && !s.tabbed)
      entries column found fuel

end

/-! ### Documents -/

/-- A line before the document that says how it is to be read. -/
def directive : Reader Unit := do
  let line ← takeWhile (· != '\n')
  let words := ((splitAll isSpace line).filter (!·.isEmpty)).map String.ofList
  match words with
  | "%YAML" :: version :: more =>
    require (version.startsWith "1." && more.head?.all (·.startsWith "#"))
  | ["%YAML"] | ["%TAG"] | ["%TAG", _] => failure
  | "%TAG" :: handle :: start :: _ =>
    modify fun s => { s with handles := (handle, start) :: s.handles }
  | _ => return

/-- Takes the directives of a document; tells whether there were any. -/
def directives : Nat → Reader Bool
  | 0 => return false
  | fuel + 1 => do
    separateAll
    let s ← get
    if s.column == 0 && s.rest.head? == some '%' then
      directive
      discard (directives fuel)
      return true
    else return false

/-- The last thing of a document: a line that ends it, several times if need be. -/
def closing : Nat → Reader Unit
  | 0 => return
  | fuel + 1 => do
    separateAll
    let s ← get
    if s.column == 0 && s.rest.take 3 == "...".toList && apart s.rest[3]? then
      skip 3
      endLine
      closing fuel

/-- The only document, if there is one. -/
def document : Reader (Option Node) := do
  let fuel := 3 * (← get).rest.length + 10
  closing fuel
  let directed ← directives fuel
  if (← get).rest.isEmpty then
    require !directed
    return none
  else
    let s ← get
    let marked := s.column == 0 && s.rest.take 3 == "---".toList && apart s.rest[3]?
    require (marked || !directed)
    if marked then skip 3
    let n ← node (-1) (!marked) false ⟨none, none⟩ fuel
    closing fuel
    require (← get).rest.isEmpty
    return some n

/-- What the handles of tags stand for unless a document says otherwise. -/
def commonHandles : List (String × String) := [("!!", "tag:yaml.org,2002:"), ("!", "!")]

/-- A text with one kind of line break. -/
def unified : List Char → List Char
  | '\r' :: '\n' :: cs => '\n' :: unified cs
  | '\r' :: cs => '\n' :: unified cs
  | c :: cs => c :: unified cs
  | [] => []

/-- Reads a document; it is a table, and an empty one where there is none. -/
def parse? (text : String) : Option (List (String × Tree)) :=
  match document ⟨unified text.toList, 0, 0, false, [], commonHandles⟩ with
  | some (none, _) => some []
  | some (some n, _) => n.toTree?.bind Tree.entries?
  | none => none

end Timelines.Yaml
