import EvmBank.Hash
import EvmBank.Json.Record
import EvmBank.Text.Quoted

/-!
Single values in documents: an address is a text in hexadecimal, a byte string and a hash are
arrays of numbers, and an amount is a text of hexadecimal digits after `0x`.
-/

namespace EvmBank

open Json (Dialect)

namespace Address

def toJson (a : Address) : Json := .ofString a.toHex

def ofJson? (v : Json) : Option Address := v.text?.bind fun s => (ofHex s).toOption

end Address

namespace Bytes

def toJson (bytes : Bytes) : Json := .array (bytes.map fun b => .ofNat b.toNat)

def byteOfJson? (v : Json) : Option UInt8 :=
  (v.quantity? : Option (Quantity 8)).map fun n => UInt8.ofNat n.toNat

def ofJson? (v : Json) : Option Bytes := v.list? byteOfJson?

end Bytes

namespace Hash

def toJson (h : Hash) : Json := h.bytes.toJson

def ofJson? (v : Json) : Option Hash := (Bytes.ofJson? v).bind ofBytes?

end Hash

namespace Quantity

/-- A number of 64 bits stands as it is. -/
def toJson (n : Quantity 64) : Json := .ofNat n.toNat

end Quantity

namespace Amount

/-- An amount as digits after `0x`. -/
def toJson (n : Amount) : Json :=
  .ofString (String.ofList ('0' :: 'x' :: Text.hexDigits n.toNat))

/-- A text without one mark `0x` in front. -/
def dropMark : List Char → List Char
  | '0' :: 'x' :: rest => rest
  | s => s

/-- Characters that do not count between digits. -/
def isBlank (c : Char) : Bool := c = ' ' || c = '\t' || c = '\n' || c = '\r'

/-- The number that 1 to 64 digits stand for. Blanks between digits take the place of digits: they
count among the 64, and behind an odd number of them the last digit is missing its partner and
does not count. -/
def ofDigits? (text : List Char) : Option Amount :=
  if text = [] || 64 < text.length then none
  else do
    let digits := text.filter fun c => !isBlank c
    let n ← Text.ofDigits? 16 digits
    Quantity.ofNat? (if (text.length - digits.length) % 2 = 0 then n else n / 16)

def ofJson? (v : Json) : Option Amount := v.text?.bind fun s => ofDigits? (dropMark s.toList)

end Amount

def Json.ofOption {α : Type} (write : α → Json) : Option α → Json
  | none => .null
  | some a => write a

def Json.ofList {α : Type} (write : α → Json) (l : List α) : Json := .array (l.map write)

end EvmBank
