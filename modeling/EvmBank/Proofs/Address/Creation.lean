import EvmBank.Address.Derived
import EvmBank.Proofs.Checked

/-!
# Addresses of new contracts stay in their bounds

What is hashed for the address of a new contract has the nonce in as few bytes as possible, cut out of
all eight, and the address is cut out of the hash. Written with operations that come to a breach out of
their bounds, this is the same as without (`checkedOfCreation_eq_ok`).
-/

namespace EvmBank

-- Powers are those of the core library, also beside more general ones.
attribute [local instance (high)] instPowNat

open Checked

namespace Address

/-- A nonce in canonical form, with its bytes cut out of all eight. -/
def checkedNonceImage (nonce : Nonce) : Except Breach Bytes :=
  let bytes := Bytes.bigEndian 8 nonce.toNat
  if nonce.toNat = 0 then .ok [0x80]
  else if nonce.toNat ≤ 127 then slice bytes 7 8
  else do
    let start := (bytes.findIdx? (· ≠ 0)).getD 7
    let count ← difference 8 start
    return UInt8.ofNat (0x80 + count) :: (← slice bytes start 8)

def checkedCreationImage (sender : Address) (nonce : Nonce) : Except Breach Bytes := do
  let payload := 0x94 :: sender.bytes ++ (← checkedNonceImage nonce)
  return UInt8.ofNat (0xc0 + payload.length) :: payload

def checkedOfCreation (sender : Address) (nonce : Nonce) : Except Breach Address := do
  let digest := Digest.keccak256 (← checkedCreationImage sender nonce)
  let bytes ← slice digest.bytes 12 32
  match Address.ofBytes? bytes with
  | some a => return a
  | none => .error (.copy bytes.length 20)

theorem bigEndian_zero (width : Nat) : Bytes.bigEndian width 0 = List.replicate width 0 := by
  have hlittle : ∀ width, Bytes.littleEndian width 0 = List.replicate width 0 := by
    intro width
    induction width with
    | zero => rfl
    | succ width ih => exact congrArg (List.cons 0) ih
  rw [Bytes.bigEndian, hlittle, List.reverse_replicate]

theorem exists_ne_zero {width n : Nat} (hfits : n < 256 ^ width) (hpos : n ≠ 0) :
    ∃ b ∈ Bytes.bigEndian width n, b ≠ 0 := by
  refine Classical.byContradiction fun hnone => hpos ?_
  have hzeros : Bytes.bigEndian width n = Bytes.bigEndian width 0 := by
    rw [bigEndian_zero]
    refine List.eq_replicate_iff.mpr ⟨Bytes.length_bigEndian width n, fun b hb => ?_⟩
    exact Classical.byContradiction fun hne => hnone ⟨b, hb, hne⟩
  have hread := congrArg Bytes.ofBigEndian hzeros
  rwa [Bytes.ofBigEndian_bigEndian hfits, Bytes.ofBigEndian_bigEndian (Nat.pow_pos (by omega))] at hread

/-- What stands in front of the first byte that is not zero is left out where a number is written in as
few bytes as possible. -/
theorem minimalBigEndian_eq_drop {width n : Nat} (hfits : n < 256 ^ width) (hpos : n ≠ 0) :
    ∃ start, (Bytes.bigEndian width n).findIdx? (· ≠ 0) = some start ∧ start < width ∧
      Bytes.minimalBigEndian width n = (Bytes.bigEndian width n).drop start := by
  have hexists : ∃ b ∈ Bytes.bigEndian width n, decide (b ≠ 0) = true := by
    obtain ⟨b, hb, hne⟩ := exists_ne_zero hfits hpos
    exact ⟨b, hb, decide_eq_true hne⟩
  refine ⟨_, List.findIdx?_eq_some_of_exists hexists, ?_, ?_⟩
  · have hlt := List.findIdx_lt_length_of_exists hexists
    rwa [Bytes.length_bigEndian] at hlt
  · have hsame : (fun b : UInt8 => !(b == 0)) = fun b => decide (b ≠ 0) := by
      funext b
      by_cases hb : b = 0 <;> simp [hb]
    rw [Bytes.minimalBigEndian, List.dropWhile_eq_drop_findIdx_not, hsame]

theorem checkedNonceImage_eq_ok (nonce : Nonce) :
    checkedNonceImage nonce = .ok (nonceImage nonce) := by
  unfold checkedNonceImage nonceImage
  dsimp only
  split
  · rfl
  · rename_i hpos
    split
    · rename_i hshort
      have hbytes : Bytes.bigEndian 8 nonce.toNat =
          (Bytes.littleEndian 7 (nonce.toNat / 256)).reverse ++ [UInt8.ofNat nonce.toNat] :=
        List.reverse_cons
      have hfront : (Bytes.littleEndian 7 (nonce.toNat / 256)).reverse.length = 7 := by simp
      rw [slice_eq_ok (by omega) (by simp), List.take_of_length_le (by simp), hbytes,
        List.drop_left' hfront]
    · have hfits : nonce.toNat < 256 ^ 8 := nonce.isLt
      obtain ⟨start, hstart, hlt, hdrop⟩ := minimalBigEndian_eq_drop hfits hpos
      have hlength : (Bytes.bigEndian 8 nonce.toNat).length = 8 := Bytes.length_bigEndian 8 _
      have hslice : slice (Bytes.bigEndian 8 nonce.toNat) start 8 =
          .ok ((Bytes.bigEndian 8 nonce.toNat).drop start) := by
        rw [slice_eq_ok (Nat.le_of_lt hlt) (Nat.le_of_eq hlength.symm),
          List.take_of_length_le (Nat.le_of_eq hlength)]
      rw [hstart, Option.getD_some, difference_eq_ok (Nat.le_of_lt hlt), hslice, hdrop,
        List.length_drop, hlength]
      rfl

theorem checkedCreationImage_eq_ok (sender : Address) (nonce : Nonce) :
    checkedCreationImage sender nonce = .ok (creationImage sender nonce) := by
  unfold checkedCreationImage
  rw [checkedNonceImage_eq_ok]
  rfl

/-- The last twenty bytes of a digest. -/
theorem slice_digest (digest : Hash) : slice digest.bytes 12 32 = .ok (digest.bytes.drop 12) := by
  have hslice : slice digest.bytes 12 digest.bytes.length = .ok (digest.bytes.drop 12) :=
    slice_eq_drop (by rw [digest.length_bytes]; omega)
  rwa [digest.length_bytes] at hslice

theorem checkedOfCreation_eq_ok (sender : Address) (nonce : Nonce) :
    checkedOfCreation sender nonce = .ok (ofCreation sender nonce) := by
  have hbytes : Address.ofBytes? ((Digest.keccak256 (creationImage sender nonce)).bytes.drop 12) =
      some (ofCreation sender nonce) := dif_pos (ofCreation sender nonce).length_bytes
  unfold checkedOfCreation
  rw [checkedCreationImage_eq_ok]
  dsimp only [bind, Except.bind]
  rw [slice_digest]
  dsimp only
  rw [hbytes]
  rfl

end Address

end EvmBank
