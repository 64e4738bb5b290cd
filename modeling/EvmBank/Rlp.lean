import EvmBank.Bytes.Endian

/-!
The canonical form of nested lists of byte strings: a short payload has its length in the first
byte, a long one in the bytes after it, and a single byte below 128 stands for itself.
-/

namespace EvmBank.Rlp

/-- A byte string, or a list of items. -/
inductive Item where
  | bytes (content : Bytes)
  | list (items : List Item)

/-- The length of a payload, marked by `short` for a byte string or a list. A length above 55 is
written after its own length. -/
def header (short length : Nat) : Bytes :=
  if length ≤ 55 then [UInt8.ofNat (short + length)]
  else
    let digits := Bytes.minimalBigEndian 8 length
    UInt8.ofNat (short + 55 + digits.length) :: digits

/-- A byte string after its header; a single byte below 128 has none. -/
def encodeBytes : Bytes → Bytes
  | [b] => if b < 128 then [b] else header 0x80 1 ++ [b]
  | content => header 0x80 content.length ++ content

mutual

def encode : Item → Bytes
  | .bytes content => encodeBytes content
  | .list items =>
    let payload := encodeAll items
    header 0xc0 payload.length ++ payload

/-- The canonical forms of several items, one after the other. -/
def encodeAll : List Item → Bytes
  | [] => []
  | item :: items => encode item ++ encodeAll items

end

end EvmBank.Rlp
