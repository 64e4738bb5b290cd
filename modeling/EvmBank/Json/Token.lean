import EvmBank.Text.Digits

/-!
The tokens of JSON texts. A text is read character by character by a machine that collects the
tokens; blanks stand between tokens only.
-/

namespace EvmBank.Json

inductive Token where
  | openBracket
  | closeBracket
  | openBrace
  | closeBrace
  | comma
  | colon
  | null
  | bool (value : Bool)
  | number (lexeme : List Char)
  /-- A text, without content where its escapes do not make one up. -/
  | text (content : Option String)

/-- A piece of a text: a character, or the number of an escape of four digits. -/
inductive Piece where
  | char (c : Char)
  | unit (n : Nat)

/-- The characters of a text. Of two numbers that stand for one character, the first is between
0xd800 and 0xdbff and the second between 0xdc00 and 0xdfff; they occur in no other way. -/
def characters : List Piece → Option (List Char)
  | [] => some []
  | .char c :: rest => (characters rest).map (c :: ·)
  | .unit n :: .unit m :: rest =>
    if 0xd800 ≤ n && n < 0xdc00 then
      if 0xdc00 ≤ m && m < 0xe000 then
        (characters rest).map (Char.ofNat (0x10000 + (n - 0xd800) * 0x400 + (m - 0xdc00)) :: ·)
      else none
    else if 0xdc00 ≤ n && n < 0xe000 then none
    else (characters (.unit m :: rest)).map (Char.ofNat n :: ·)
  | .unit n :: rest =>
    if 0xd800 ≤ n && n < 0xe000 then none else (characters rest).map (Char.ofNat n :: ·)

/-- Where in a text the machine stands. What belongs to an unfinished token is kept with the last
character first. -/
inductive Mode where
  | between
  | number (lexeme : List Char)
  | word (letters : List Char)
  | text (pieces : List Piece)
  | escape (pieces : List Piece)
  /-- Within an escape of four digits: how many are to come, and their value so far. -/
  | digits (pieces : List Piece) (count value : Nat)

/-- The mode, and the tokens that were read, the last one first. -/
structure Lexer where
  mode : Mode
  tokens : List Token

/-- A run of digits at the front and the rest, if there is a digit. -/
def takeDigits? (s : List Char) : Option (List Char × List Char) :=
  match s.span Char.isDigit with
  | ([], _) => none
  | (digits, rest) => some (digits, rest)

/-- Whether nothing or an exponent is written. -/
def isExponent : List Char → Bool
  | [] => true
  | c :: rest =>
    let digits := match rest with
      | '+' :: digits => digits
      | '-' :: digits => digits
      | digits => digits
    (c = 'e' || c = 'E') && digits ≠ [] && digits.all Char.isDigit

/-- Whether nothing, a fraction, an exponent or both are written. -/
def isFraction : List Char → Bool
  | '.' :: rest =>
    match takeDigits? rest with
    | some (_, rest) => isExponent rest
    | none => false
  | rest => isExponent rest

/-- Whether a number is written. Only a single zero begins with zero. -/
def isNumber (lexeme : List Char) : Bool :=
  let unsigned := match lexeme with
    | '-' :: rest => rest
    | rest => rest
  match takeDigits? unsigned with
  | some (digits, rest) => (digits.length = 1 || digits.head? ≠ some '0') && isFraction rest
  | none => false

def isNumberChar (c : Char) : Bool :=
  c.isDigit || c = '-' || c = '+' || c = '.' || c = 'e' || c = 'E'

def wordToken? (letters : List Char) : Option Token :=
  if letters = "null".toList then some .null
  else if letters = "true".toList then some (.bool true)
  else if letters = "false".toList then some (.bool false)
  else none

def markToken? (c : Char) : Option Token :=
  if c = '[' then some .openBracket
  else if c = ']' then some .closeBracket
  else if c = '\x7b' then some .openBrace
  else if c = '\x7d' then some .closeBrace
  else if c = ',' then some .comma
  else if c = ':' then some .colon
  else none

def isBlank (c : Char) : Bool := c = ' ' || c = '\n' || c = '\t' || c = '\r'

/-- The character that a short escape stands for. -/
def escaped? (c : Char) : Option Char :=
  if c = '"' || c = '\\' || c = '/' then some c
  else if c = 'b' then some '\x08'
  else if c = 'f' then some '\x0c'
  else if c = 'n' then some '\n'
  else if c = 'r' then some '\r'
  else if c = 't' then some '\t'
  else none

namespace Lexer

def start : Lexer := ⟨.between, []⟩

def emit (l : Lexer) (t : Token) : Lexer := ⟨.between, t :: l.tokens⟩

/-- Ends an unfinished number or word. -/
def close (l : Lexer) : Option Lexer :=
  match l.mode with
  | .between => some l
  | .number lexeme =>
    if isNumber lexeme.reverse then some (l.emit (.number lexeme.reverse)) else none
  | .word letters => (wordToken? letters.reverse).map l.emit
  | _ => none

/-- Takes in a character that stands between tokens or begins one. -/
def begin (l : Lexer) (c : Char) : Option Lexer :=
  if isBlank c then some l
  else if c = '"' then some { l with mode := .text [] }
  else if c.isDigit || c = '-' then some { l with mode := .number [c] }
  else if c.isAlpha then some { l with mode := .word [c] }
  else (markToken? c).map l.emit

def step (l : Lexer) (c : Char) : Option Lexer :=
  match l.mode with
  | .between => l.begin c
  | .number lexeme =>
    if isNumberChar c then some { l with mode := .number (c :: lexeme) }
    else l.close.bind (·.begin c)
  | .word letters =>
    if c.isAlpha then some { l with mode := .word (c :: letters) }
    else l.close.bind (·.begin c)
  | .text pieces =>
    if c = '"' then some (l.emit (.text ((characters pieces.reverse).map String.ofList)))
    else if c = '\\' then some { l with mode := .escape pieces }
    else if c.toNat < 0x20 then none
    else some { l with mode := .text (.char c :: pieces) }
  | .escape pieces =>
    if c = 'u' then some { l with mode := .digits pieces 4 0 }
    else (escaped? c).map fun e => { l with mode := .text (.char e :: pieces) }
  | .digits pieces count value =>
    (Text.hexValue? c).map fun d =>
      let value := value * 16 + d
      { l with mode := if count = 1 then .text (.unit value :: pieces)
                       else .digits pieces (count - 1) value }

end Lexer

def tokens? (s : List Char) : Option (List Token) := do
  let l ← s.foldlM Lexer.step Lexer.start
  let l ← l.close
  return l.tokens.reverse

end EvmBank.Json
