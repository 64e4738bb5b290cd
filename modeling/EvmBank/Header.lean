import EvmBank.Digest.Sha256
import EvmBank.Quantity

/-!
Block headers and their encoding: numbers have eight bytes, least significant first, and texts and
byte strings stand after their length. Reading takes an encoding from the front of a byte string
and leaves the rest alone.
-/

namespace EvmBank

/-- The header of a block of the host chain. -/
@[ext]
structure Header where
  chainId : String
  height : Height
  time : Seconds
  proposer : Bytes
  parentHash : Hash
  appHash : Hash
deriving DecidableEq

namespace Header

def encodeNumber (n : Nat) : Bytes := Bytes.littleEndian 8 n

/-- A byte string after its length. -/
def encodeSized (content : Bytes) : Bytes := encodeNumber content.length ++ content

def encode (h : Header) : Bytes :=
  encodeSized (Bytes.ofText h.chainId) ++ encodeNumber h.height.toNat ++ encodeNumber h.time.toNat ++
    encodeSized h.proposer ++ h.parentHash.bytes ++ h.appHash.bytes

/-- The first `count` bytes and the rest, if there are so many. -/
def takeBytes? (count : Nat) (input : Bytes) : Option (Bytes × Bytes) :=
  if count ≤ input.length then some (input.splitAt count) else none

/-- A number of eight bytes at the front. -/
def takeNumber? (input : Bytes) : Option (Quantity 64 × Bytes) := do
  let (digits, rest) ← takeBytes? 8 input
  let n ← Quantity.ofNat? (Bytes.ofLittleEndian digits)
  return (n, rest)

/-- A byte string at the front, after its length. -/
def takeSized? (input : Bytes) : Option (Bytes × Bytes) := do
  let (count, rest) ← takeNumber? input
  takeBytes? count.toNat rest

def takeHash? (input : Bytes) : Option (Hash × Bytes) := do
  let (bytes, rest) ← takeBytes? 32 input
  let hash ← Hash.ofBytes? bytes
  return (hash, rest)

/-- A header at the front, and what stands behind it. -/
def take? (input : Bytes) : Option (Header × Bytes) := do
  let (name, input) ← takeSized? input
  let chainId ← Bytes.toText? name
  let (height, input) ← takeNumber? input
  let (time, input) ← takeNumber? input
  let (proposer, input) ← takeSized? input
  let (parentHash, input) ← takeHash? input
  let (appHash, input) ← takeHash? input
  return (⟨chainId, height, time, proposer, parentHash, appHash⟩, input)

/-- Reads a header; bytes behind it do not matter. -/
def decode? (raw : Bytes) : Option Header := (take? raw).map (·.1)

/-- A header has to name its chain and have a height. -/
def isValid (h : Header) : Bool := h.chainId ≠ "" && 0 < h.height.toNat

def hash (h : Header) : Hash := Digest.sha256 h.encode

end Header

end EvmBank
