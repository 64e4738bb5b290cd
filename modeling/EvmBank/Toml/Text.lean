import EvmBank.Text.Digits

/-!
Texts of TOML, between quotation marks or apostrophes, on one line or on several. Only those
between quotation marks have escapes. What is read is given with the rest of the input.
-/

namespace EvmBank.Toml

/-- Characters that may stand in comments and texts: no controls but the tab. -/
def isPlain (c : Char) : Bool := c = '\t' || (0x20 ≤ c.toNat && c.toNat ≠ 0x7f)

/-- The character of a code point that is written with hexadecimal digits. -/
def codePoint? (digits : List Char) : Option Char := do
  let n ← Text.ofDigits? 16 digits
  if n < 0xd800 || (0xe000 ≤ n && n < 0x110000) then some (Char.ofNat n) else none

/-- Reads the character of a code point that is written with `count` hexadecimal digits. -/
def takeCodePoint? (count : Nat) (s : List Char) : Option (Char × List Char) :=
  let digits := s.take count
  if digits.length < count then none else (codePoint? digits).map (·, s.drop count)

def takeEscape? : List Char → Option (Char × List Char)
  | 'b' :: rest => some ('\x08', rest)
  | 't' :: rest => some ('\t', rest)
  | 'n' :: rest => some ('\n', rest)
  | 'f' :: rest => some ('\x0c', rest)
  | 'r' :: rest => some ('\r', rest)
  | '"' :: rest => some ('"', rest)
  | '\\' :: rest => some ('\\', rest)
  | 'u' :: rest => takeCodePoint? 4 rest
  | 'U' :: rest => takeCodePoint? 8 rest
  | _ => none

/-- Reads a text on one line up to its mark, which is a quotation mark or an apostrophe. -/
def takeLine? (mark : Char) : (fuel : Nat) → List Char → Option (List Char × List Char)
  | 0, _ => none
  | _ + 1, [] => none
  | fuel + 1, c :: rest =>
    if c = mark then some ([], rest)
    else if c = '\\' && mark = '"' then do
      let (e, rest) ← takeEscape? rest
      let (text, rest) ← takeLine? mark fuel rest
      return (e :: text, rest)
    else if isPlain c then do
      let (text, rest) ← takeLine? mark fuel rest
      return (c :: text, rest)
    else none

/-- A line break at the front, and what stands behind it. -/
def dropBreak? : List Char → Option (List Char)
  | '\n' :: rest => some rest
  | '\r' :: '\n' :: rest => some rest
  | _ => none

/-- What stands behind all blanks and line breaks at the front. -/
def dropSpace : List Char → List Char
  | ' ' :: rest => dropSpace rest
  | '\t' :: rest => dropSpace rest
  | '\n' :: rest => dropSpace rest
  | '\r' :: '\n' :: rest => dropSpace rest
  | s => s

def dropBlanks (s : List Char) : List Char := s.dropWhile fun c => c = ' ' || c = '\t'

/-- Reads a text on several lines up to three marks. Up to two marks more belong to the text, and
a backslash at the end of a line hides the space up to the next character. -/
def takeLines? (mark : Char) : (fuel : Nat) → List Char → Option (List Char × List Char)
  | 0, _ => none
  | _ + 1, [] => none
  | fuel + 1, c :: rest =>
    if c = mark then
      let marks := min 5 ((c :: rest).takeWhile (· = mark)).length
      let rest := (c :: rest).drop marks
      if 3 ≤ marks then some (List.replicate (marks - 3) mark, rest)
      else do
        let (text, rest) ← takeLines? mark fuel rest
        return (List.replicate marks mark ++ text, rest)
    else if c = '\\' && mark = '"' then
      match dropBreak? (dropBlanks rest) with
      | some rest => takeLines? mark fuel (dropSpace rest)
      | none => do
        let (e, rest) ← takeEscape? rest
        let (text, rest) ← takeLines? mark fuel rest
        return (e :: text, rest)
    else
      match dropBreak? (c :: rest) with
      | some rest => do
        let (text, rest) ← takeLines? mark fuel rest
        return ('\n' :: text, rest)
      | none =>
        if isPlain c then do
          let (text, rest) ← takeLines? mark fuel rest
          return (c :: text, rest)
        else none

/-- Reads the text behind its first mark. A line break right behind three marks does not belong to
it. -/
def takeText? (mark : Char) (fuel : Nat) (s : List Char) : Option (String × List Char) := do
  let (text, rest) ←
    match s with
    | a :: b :: rest =>
      if a = mark && b = mark then takeLines? mark fuel ((dropBreak? rest).getD rest)
      else takeLine? mark fuel s
    | _ => takeLine? mark fuel s
  return (String.ofList text, rest)

end EvmBank.Toml
