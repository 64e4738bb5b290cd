/-!
Documents of nested values, as JSON writes them, and their compact text. A number is kept as it
was written. A text is kept as its content, which is absent where the escapes in it do not make up
a text: that is an error only where the text is used.
-/

namespace EvmBank

inductive Json where
  | null
  | bool (value : Bool)
  | number (lexeme : List Char)
  | text (content : Option String)
  | array (items : List Json)
  | object (members : List (Option String × Json))

namespace Json

def ofString (s : String) : Json := .text (some s)

def ofNat (n : Nat) : Json := .number (Nat.toDigits 10 n)

def ofMembers (members : List (String × Json)) : Json :=
  .object (members.map fun m => (some m.1, m.2))

/-- A character within a text. Quotation marks, backslashes and controls are escaped. -/
def escape (c : Char) : List Char :=
  if c = '"' then ['\\', '"']
  else if c = '\\' then ['\\', '\\']
  else if c = '\x08' then ['\\', 'b']
  else if c = '\x0c' then ['\\', 'f']
  else if c = '\n' then ['\\', 'n']
  else if c = '\r' then ['\\', 'r']
  else if c = '\t' then ['\\', 't']
  else if c.toNat < 0x20 then
    ['\\', 'u', '0', '0', Nat.digitChar (c.toNat / 16), Nat.digitChar (c.toNat % 16)]
  else [c]

/-- A text in quotation marks; one without content is written as the empty text. -/
def printText (content : Option String) : List Char :=
  '"' :: (content.getD "").toList.flatMap escape ++ ['"']

mutual

/-- The compact text of a value. -/
def print : Json → List Char
  | .null => "null".toList
  | .bool b => if b then "true".toList else "false".toList
  | .number lexeme => lexeme
  | .text content => printText content
  | .array items => '[' :: printItems items
  | .object members => '\x7b' :: printMembers members

/-- The items of an array with commas between them, and the bracket behind them. -/
def printItems : List Json → List Char
  | [] => [']']
  | [v] => print v ++ [']']
  | v :: w :: rest => print v ++ ',' :: printItems (w :: rest)

/-- The members of an object with commas between them, and the brace behind them. -/
def printMembers : List (Option String × Json) → List Char
  | [] => ['\x7d']
  | [(k, v)] => printText k ++ ':' :: print v ++ ['\x7d']
  | (k, v) :: m :: rest => printText k ++ ':' :: print v ++ ',' :: printMembers (m :: rest)

end

/-- The compact text of a value. -/
def toText (v : Json) : String := String.ofList v.print

end Json

end EvmBank
