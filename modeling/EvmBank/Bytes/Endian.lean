/-!
Numbers as byte strings, least significant byte first or last. Both forms have a fixed width, and
both can be read back (`ofLittleEndian_littleEndian`, `littleEndian_ofLittleEndian` and the same
for `bigEndian`); `minimalBigEndian` has no leading zero byte instead.
-/

namespace EvmBank

-- Powers are those of the core library, also beside more general ones.
attribute [local instance (high)] instPowNat

abbrev Bytes := List UInt8

namespace Bytes

/-- The lowest `width` bytes of `n`, least significant first. -/
def littleEndian : (width : Nat) → (n : Nat) → Bytes
  | 0, _ => []
  | width + 1, n => UInt8.ofNat n :: littleEndian width (n / 256)

/-- The number written with its least significant byte first. -/
def ofLittleEndian : Bytes → Nat
  | [] => 0
  | b :: rest => b.toNat + 256 * ofLittleEndian rest

/-- The lowest `width` bytes of `n`, most significant first. -/
def bigEndian (width n : Nat) : Bytes := (littleEndian width n).reverse

/-- The number written with its most significant byte first. -/
def ofBigEndian (bytes : Bytes) : Nat := ofLittleEndian bytes.reverse

/-- The bytes of `n`, most significant first, without leading zero bytes; zero has none at all.
At most `width` bytes are written. -/
def minimalBigEndian (width n : Nat) : Bytes := (bigEndian width n).dropWhile (· == 0)

@[simp] theorem length_littleEndian (width n : Nat) : (littleEndian width n).length = width := by
  induction width generalizing n with
  | zero => rfl
  | succ w ih => simp [littleEndian, ih]

@[simp] theorem length_bigEndian (width n : Nat) : (bigEndian width n).length = width := by
  simp [bigEndian]

theorem ofLittleEndian_littleEndian {width n : Nat} (h : n < 256 ^ width) :
    ofLittleEndian (littleEndian width n) = n := by
  induction width generalizing n with
  | zero => simp at h; simp [littleEndian, ofLittleEndian, h]
  | succ w ih =>
    have : n / 256 < 256 ^ w := Nat.div_lt_of_lt_mul (by rw [Nat.pow_succ] at h; omega)
    simp only [littleEndian, ofLittleEndian, ih this, UInt8.toNat_ofNat']
    omega

theorem ofLittleEndian_lt (bytes : Bytes) : ofLittleEndian bytes < 256 ^ bytes.length := by
  induction bytes with
  | nil => simp [ofLittleEndian]
  | cons b rest ih =>
    have := b.toNat_lt
    simp only [ofLittleEndian, List.length_cons, Nat.pow_succ]
    omega

theorem littleEndian_ofLittleEndian (bytes : Bytes) :
    littleEndian bytes.length (ofLittleEndian bytes) = bytes := by
  induction bytes with
  | nil => rfl
  | cons b rest ih =>
    have := b.toNat_lt
    have hd : (b.toNat + 256 * ofLittleEndian rest) / 256 = ofLittleEndian rest := by omega
    simp only [List.length_cons, littleEndian, ofLittleEndian, hd, ih]
    congr 1
    apply UInt8.toNat_inj.1
    simp only [UInt8.toNat_ofNat']
    omega

theorem ofBigEndian_bigEndian {width n : Nat} (h : n < 256 ^ width) :
    ofBigEndian (bigEndian width n) = n := by
  simp [ofBigEndian, bigEndian, ofLittleEndian_littleEndian h]

theorem bigEndian_ofBigEndian (bytes : Bytes) :
    bigEndian bytes.length (ofBigEndian bytes) = bytes := by
  have := littleEndian_ofLittleEndian bytes.reverse
  rw [List.length_reverse] at this
  simp [ofBigEndian, bigEndian, this]

theorem ofBigEndian_lt (bytes : Bytes) : ofBigEndian bytes < 256 ^ bytes.length := by
  simpa [ofBigEndian] using ofLittleEndian_lt bytes.reverse

end Bytes

end EvmBank
