import EvmBank.Address

/-!
Hashes: 32 bytes. The hash of zero bytes stands for a hash that is not known.
-/

namespace EvmBank

/-- A digest of 32 bytes, or a log topic. -/
@[ext]
structure Hash where
  bytes : Bytes
  length_bytes : bytes.length = 32
deriving DecidableEq

namespace Hash

def ofBytes? (bytes : Bytes) : Option Hash :=
  if h : bytes.length = 32 then some ⟨bytes, h⟩ else none

def zero : Hash := ⟨List.replicate 32 0, List.length_replicate⟩

instance : Inhabited Hash := ⟨zero⟩

def isZero (h : Hash) : Bool := h = zero

/-- An address as a log topic. -/
def ofAddress (a : Address) : Hash := ⟨a.word, a.length_word⟩

def toHex (h : Hash) : String := h.bytes.full

def short (h : Hash) : String := h.bytes.ends 4

instance : ToString Hash := ⟨toHex⟩

end Hash

end EvmBank
