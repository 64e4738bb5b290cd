import EvmBank.Digest.Blocks
import EvmBank.Hash

/-!
The digest Keccak-256: the sponge with a rate of 136 bytes over the permutation of 25 lanes.
Lane (x, y) stands at place x + 5 y.
-/

namespace EvmBank.Digest

namespace Keccak

/-- What each round adds to the first lane. -/
def roundConstants : List UInt64 :=
  [0x0000000000000001, 0x0000000000008082, 0x800000000000808a, 0x8000000080008000,
    0x000000000000808b, 0x0000000080000001, 0x8000000080008081, 0x8000000000008009,
    0x000000000000008a, 0x0000000000000088, 0x0000000080008009, 0x000000008000000a,
    0x000000008000808b, 0x800000000000008b, 0x8000000000008089, 0x8000000000008003,
    0x8000000000008002, 0x8000000000000080, 0x000000000000800a, 0x800000008000000a,
    0x8000000080008081, 0x8000000000008080, 0x0000000080000001, 0x8000000080008008]

/-- By how many bits each lane is rotated. -/
def rotations : List UInt64 :=
  [0, 1, 62, 28, 27,
    36, 44, 6, 55, 20,
    3, 10, 43, 25, 39,
    41, 45, 15, 21, 8,
    18, 2, 61, 56, 14]

abbrev Lanes := List UInt64

def Lanes.at (s : Lanes) (x y : Nat) : UInt64 := s.getD (x % 5 + 5 * (y % 5)) 0

/-- The lanes whose value at (x, y) is `f x y`. -/
def Lanes.build (f : Nat → Nat → UInt64) : Lanes :=
  (List.range 25).map fun i => f (i % 5) (i / 5)

def rotateLeft (x n : UInt64) : UInt64 := (x <<< n) ||| (x >>> ((64 - n) % 64))

/-- Adds to each lane the parities of two columns beside it. -/
def Lanes.theta (s : Lanes) : Lanes :=
  let parity := (List.range 5).map fun x => s.at x 0 ^^^ s.at x 1 ^^^ s.at x 2 ^^^ s.at x 3 ^^^ s.at x 4
  let mixed := (List.range 5).map fun x =>
    parity.getD ((x + 4) % 5) 0 ^^^ rotateLeft (parity.getD ((x + 1) % 5) 0) 1
  Lanes.build fun x y => s.at x y ^^^ mixed.getD x 0

def Lanes.rho (s : Lanes) : Lanes := s.zipWith rotateLeft rotations

def Lanes.pi (s : Lanes) : Lanes := Lanes.build fun x y => s.at (x + 3 * y) x

/-- Combines each lane with the two beside it in its row. -/
def Lanes.chi (s : Lanes) : Lanes :=
  Lanes.build fun x y => s.at x y ^^^ (~~~s.at (x + 1) y &&& s.at (x + 2) y)

def Lanes.iota (s : Lanes) (constant : UInt64) : Lanes := s.modify 0 (· ^^^ constant)

def Lanes.permute (s : Lanes) : Lanes :=
  roundConstants.foldl (fun s constant => s.theta.rho.pi.chi.iota constant) s

/-- Takes in a block of 136 bytes. -/
def Lanes.absorb (s : Lanes) (block : Bytes) : Lanes :=
  let words := (blocks 8 block).map fun w => UInt64.ofNat (Bytes.ofLittleEndian w)
  Lanes.permute (s.zipWith (· ^^^ ·) (words ++ List.replicate (25 - words.length) 0))

/-- The message, filled up to whole blocks: the first bit and the last bit added are set. -/
def padded (message : Bytes) : Bytes :=
  match 135 - message.length % 136 with
  | 0 => message ++ [0x81]
  | gap + 1 => message ++ 0x01 :: List.replicate gap 0 ++ [0x80]

/-- The first four lanes, least significant byte first. -/
def Lanes.digest (s : Lanes) : Bytes :=
  (List.range 4).flatMap fun i => Bytes.littleEndian 8 (s.getD i 0).toNat

theorem Lanes.length_digest (s : Lanes) : s.digest.length = 32 := by
  simp [Lanes.digest, List.range_succ]

end Keccak

def keccak256 (message : Bytes) : Hash :=
  let s := (blocks 136 (Keccak.padded message)).foldl Keccak.Lanes.absorb (List.replicate 25 0)
  ⟨s.digest, s.length_digest⟩

end EvmBank.Digest
