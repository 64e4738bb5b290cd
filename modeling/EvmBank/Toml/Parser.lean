import EvmBank.Toml.Scalar
import EvmBank.Toml.Table
import EvmBank.Toml.Text

/-!
Reading TOML texts. Values in brackets and braces nest to a limited depth, and so do dotted keys.
-/

namespace EvmBank.Toml

/-- Reading from the front of a text. The number at hand is greater than the length of the whole
text, so it is fuel enough for whatever reads one part after the other. -/
abbrev Parser := ReaderT Nat (StateT (List Char) Option)

/-- The next character, which stays where it is. -/
def peek : Parser (Option Char) := do return (← get).head?

/-- Goes on behind a character, which has to come next. -/
def expect (c : Char) : Parser Unit := do
  match ← get with
  | d :: rest => if d = c then set rest else failure
  | [] => failure

/-- Goes on behind a character if it comes next, and tells whether it did. -/
def skip (c : Char) : Parser Bool := do
  if (← peek) = some c then
    expect c
    return true
  else
    return false

/-- Goes on behind all characters for which `p` holds. -/
def takeRun (p : Char → Bool) : Parser (List Char) := do
  let (run, rest) := (← get).span p
  set rest
  return run

def blanks : Parser Unit := modify dropBlanks

def comment : Parser Unit := do
  if ← skip '#' then
    let _ ← takeRun isPlain

def lineBreak : Parser Unit := do
  match dropBreak? (← get) with
  | some rest => set rest
  | none => failure

/-- Goes on behind the rest of a line, which holds at most blanks and a comment. -/
def endLine : Parser Unit := do
  blanks
  comment
  if !(← get).isEmpty then
    lineBreak

/-- Goes on behind blanks, comments and line breaks. -/
def space : (fuel : Nat) → Parser Unit
  | 0 => pure ()
  | fuel + 1 => do
    modify dropSpace
    if (← peek) = some '#' then
      comment
      lineBreak
      space fuel

/-- Goes on behind blanks, comments and line breaks. -/
def spaces : Parser Unit := do space (← read)

/-- Reads a text between the marks that come next. -/
def text : Parser String := do
  let some mark ← peek | failure
  if mark = '"' || mark = '\'' then
    expect mark
    let some (content, rest) := takeText? mark (← read) (← get) | failure
    set rest
    return content
  else
    failure

/-- Characters of keys that stand without marks. -/
def isKeyChar (c : Char) : Bool := c.isAlphanum || c = '_' || c = '-'

/-- Reads a key, which is on one line. -/
def simpleKey : Parser String := do
  let some mark ← peek | failure
  if mark = '"' || mark = '\'' then
    expect mark
    let some (content, rest) := takeLine? mark (← read) (← get) | failure
    set rest
    return String.ofList content
  else
    let run ← takeRun isKeyChar
    if run = [] then
      failure
    return String.ofList run

/-- Reads the keys of a dotted key behind the first, which have to be fewer than `limit`. -/
def moreKeys : (limit : Nat) → Parser (List String)
  | 0 => failure
  | limit + 1 => do
    blanks
    if ← skip '.' then
      blanks
      return (← simpleKey) :: (← moreKeys limit)
    else
      return []

/-- How far values and dotted keys may nest. -/
def depthLimit : Nat := 79

def dottedKey : Parser (List String) := do
  blanks
  return (← simpleKey) :: (← moreKeys depthLimit)

/-- Characters that numbers, truth values and times are written with. -/
def isScalarChar (c : Char) : Bool :=
  c.isAlphanum || c = '_' || c = '-' || c = '+' || c = '.' || c = ':'

/-- Reads a number, a truth value or a time. A blank may stand between a date and a time. -/
def scalar : Parser Json := do
  let run ← takeRun isScalarChar
  let rest ← get
  let timed := (rest.drop 1).span isScalarChar
  if rest.head? = some ' ' && afterDate? run = some [] && isTimeWithOffset timed.1 then
    set timed.2
    return moment (run ++ ' ' :: timed.1)
  else
    let some v := readScalar? run | failure
    return v

/-- Reads the items of an array up to its end. A comma may stand behind the last. -/
def items (item : Parser Json) : (fuel : Nat) → Parser (List Json)
  | 0 => failure
  | fuel + 1 => do
    spaces
    if ← skip ']' then
      return []
    let v ← item
    spaces
    if ← skip ',' then
      return v :: (← items item fuel)
    else
      expect ']'
      return [v]

/-- Reads the entries of a table in braces up to its end. They are on one line, and no comma stands
behind the last. -/
def inlineEntries (item : Parser Json) : (fuel : Nat) → Entries → Parser Entries
  | 0, _ => failure
  | fuel + 1, es => do
    let path ← dottedKey
    blanks
    expect '='
    blanks
    let v ← item
    let some es := es.addValue path v | failure
    blanks
    if ← skip ',' then
      inlineEntries item fuel es
    else
      expect '\x7d'
      return es

/-- Reads a value; `nested` reads those in brackets and braces, where there may be any. -/
def valueWith (nested : Option (Parser Json)) : Parser Json := do
  let some c ← peek | failure
  if c = '"' || c = '\'' then
    return .ofString (← text)
  else if c = '[' then
    let some item := nested | failure
    expect '['
    return .array (← items item (← read))
  else if c = '\x7b' then
    let some item := nested | failure
    expect '\x7b'
    blanks
    if ← skip '\x7d' then
      return .object []
    let es ← inlineEntries item (← read) []
    return .object (entriesToMembers es)
  else
    scalar

/-- Reads a value, in which others may nest to the given depth. -/
def value : (depth : Nat) → Parser Json
  | 0 => valueWith none
  | depth + 1 => valueWith (some (value depth))

/-- A text that is being read: the table at its root, and the path of the last header. -/
structure Progress where
  root : Entries
  table : List String

def readHeader (p : Progress) : Parser Progress := do
  expect '['
  let isRow ← skip '['
  let path ← dottedKey
  blanks
  expect ']'
  if isRow then
    expect ']'
  let some root := if isRow then p.root.openRow path else p.root.openTable path | failure
  return ⟨root, path⟩

def readValue (p : Progress) : Parser Progress := do
  let path ← dottedKey
  blanks
  expect '='
  blanks
  let v ← value depthLimit
  let some root := p.root.addAt p.table path v | failure
  return { p with root }

/-- Reads line after line up to the end of the text. -/
def readLines : (fuel : Nat) → Progress → Parser Progress
  | 0, _ => failure
  | fuel + 1, p => do
    blanks
    match ← peek with
    | none => return p
    | some c =>
      if c = '#' || c = '\n' || c = '\r' then
        endLine
        readLines fuel p
      else
        let p ← if c = '[' then readHeader p else readValue p
        endLine
        readLines fuel p

/-- What TOML does differently from other formats: a choice without content has an empty array or
an empty table beside its name, and items behind the fields of a record are ignored. -/
def dialect : Json.Dialect where
  isUnit v := match v with
    | .array [] => true
    | .object [] => true
    | _ => false
  allowsExtraItems := true

/-- Reads a text, at the front of which a byte order mark is ignored. -/
def parse? (s : String) : Option Json := do
  let s := match s.toList with
    | '\ufeff' :: rest => rest
    | s => s
  let fuel := s.length + 1
  let (p, _) ← ((readLines fuel ⟨[], []⟩).run fuel).run s
  return .object (entriesToMembers p.root)

end EvmBank.Toml
