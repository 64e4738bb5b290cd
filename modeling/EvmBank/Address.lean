import EvmBank.Bytes.Brief
import EvmBank.Quantity

/-!
Account addresses: twenty bytes, ordered as byte strings, read and written in hexadecimal.
-/

namespace EvmBank

/-- The name of an account. -/
@[ext]
structure Address where
  bytes : Bytes
  length_bytes : bytes.length = 20
deriving DecidableEq

inductive AddressError where
  | hex (cause : HexError)
  | wrongLength (count : Nat)
deriving DecidableEq

def AddressError.message : AddressError → String
  | hex cause => "invalid hex: " ++ cause.message
  | wrongLength count => s!"expected 20 bytes, got {count}"

namespace Address

instance : Ord Address := ⟨compareOn Address.bytes⟩
instance : Std.TransOrd Address := inferInstanceAs (Std.TransCmp (compareOn Address.bytes))

instance : Std.LawfulEqOrd Address where
  eq_of_compare h := Address.ext (Std.LawfulEqCmp.eq_of_compare h)

def ofBytes? (bytes : Bytes) : Option Address :=
  if h : bytes.length = 20 then some ⟨bytes, h⟩ else none

/-- The address that ends in the eight bytes of `n`. -/
def ofLow (n : Quantity 64) : Address :=
  ⟨List.replicate 12 0 ++ Bytes.bigEndian 8 n.toNat, by simp⟩

def zero : Address := ⟨List.replicate 20 0, List.length_replicate⟩

instance : Inhabited Address := ⟨zero⟩

def isZero (a : Address) : Bool := a = zero

/-- A byte string without the marks `0x` that it begins with, however many there are. -/
def dropMarks : Bytes → Bytes
  | 48 :: 120 :: rest => dropMarks rest
  | text => text

/-- Reads an address, in hexadecimal and with any number of marks `0x` in front. -/
def ofHexBytes (text : Bytes) : Except AddressError Address :=
  match Hex.decode (dropMarks text) with
  | .error cause => .error (.hex cause)
  | .ok bytes => if h : bytes.length = 20 then .ok ⟨bytes, h⟩ else .error (.wrongLength bytes.length)

def ofHex (s : String) : Except AddressError Address := ofHexBytes (Bytes.ofText s)

/-- The address in full, as `ofHex` reads it. -/
def toHex (a : Address) : String := a.bytes.full

/-- The first four and the last two bytes. -/
def short (a : Address) : String := a.bytes.ends 2

instance : ToString Address := ⟨toHex⟩

/-- The address as a word of 32 bytes, filled with zeros on the left. -/
def word (a : Address) : Bytes := List.replicate 12 0 ++ a.bytes

@[simp] theorem length_word (a : Address) : a.word.length = 32 := by
  simp [word, a.length_bytes]

end Address

end EvmBank
