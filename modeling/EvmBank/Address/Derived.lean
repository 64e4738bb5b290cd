import EvmBank.Digest.Keccak
import EvmBank.Digest.Sha256

/-!
Addresses that follow from other data: those of the host's modules from their names, and those of
new contracts from their creator and its nonce. What is hashed for a contract is kept apart from
its hash (`creationImage`): it is the canonical form of the pair of sender and nonce.
-/

namespace EvmBank.Address

/-- The account of a module of the host: the first twenty bytes of the digest of its name. -/
def ofModule (name : String) : Address :=
  let digest := Digest.sha256 (Bytes.ofText name)
  ⟨digest.bytes.take 20, by simp [digest.length_bytes]⟩

/-- A nonce in canonical form. Zero is the empty byte string, a number below 128 one byte, and any
other its bytes after their number. -/
def nonceImage (nonce : Nonce) : Bytes :=
  if nonce.toNat = 0 then [0x80]
  else if nonce.toNat ≤ 127 then [UInt8.ofNat nonce.toNat]
  else
    let digits := Bytes.minimalBigEndian 8 nonce.toNat
    UInt8.ofNat (0x80 + digits.length) :: digits

/-- The pair of a sender and its nonce, in canonical form. -/
def creationImage (sender : Address) (nonce : Nonce) : Bytes :=
  let payload := 0x94 :: sender.bytes ++ nonceImage nonce
  UInt8.ofNat (0xc0 + payload.length) :: payload

def ofCreation (sender : Address) (nonce : Nonce) : Address :=
  let digest := Digest.keccak256 (creationImage sender nonce)
  ⟨digest.bytes.drop 12, by simp [digest.length_bytes]⟩

end EvmBank.Address
