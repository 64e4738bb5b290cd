import EvmBank.Text.Digits
import EvmBank.Text.Shown

/-!
Text in quotation marks, as it stands in error messages. A quotation mark of the kind that
encloses the text, a backslash and the usual controls have short escapes; whatever is not shown as
itself is written by its code point.
-/

namespace EvmBank.Text

/-- A character as it stands between two marks `mark`. -/
def escapeQuoted (mark c : Char) : List Char :=
  if c = '\x00' then ['\\', '0']
  else if c = '\t' then ['\\', 't']
  else if c = '\r' then ['\\', 'r']
  else if c = '\n' then ['\\', 'n']
  else if c = '\\' || c = mark then ['\\', c]
  else if isShown c then [c]
  else ['\\', 'u', '\x7b'] ++ hexDigits c.toNat ++ ['\x7d']

def quoted (s : String) : String :=
  String.ofList (['"'] ++ s.toList.flatMap (escapeQuoted '"') ++ ['"'])

/-- One character between single quotation marks. -/
def quotedChar (c : Char) : String := String.ofList (['\''] ++ escapeQuoted '\'' c ++ ['\''])

end EvmBank.Text
