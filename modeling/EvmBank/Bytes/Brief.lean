import EvmBank.Bytes.Hex

/-!
Byte strings as they are shown to people: in full after `0x`, or with the middle left out.
-/

namespace EvmBank.Bytes

def full (bytes : Bytes) : String := "0x" ++ Hex.encode bytes

def ends (bytes : Bytes) (tail : Nat) : String :=
  "0x" ++ Hex.encode (bytes.take 4) ++ "..." ++ Hex.encode (bytes.drop (bytes.length - tail))

/-- All bytes where there are at most eight, and otherwise the first four and their number. -/
def brief (bytes : Bytes) : String :=
  if bytes.length ≤ 8 then full bytes
  else full (bytes.take 4) ++ s!"..({bytes.length} bytes)"

end EvmBank.Bytes
