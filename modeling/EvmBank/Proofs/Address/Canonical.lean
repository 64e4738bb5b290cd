import EvmBank.Address.Derived
import EvmBank.Rlp

/-!
# What is hashed for a new contract

The digits of a number are its bytes without a zero in front (`Bytes.Spells`). Their canonical form is
that of the number (`Rlp.IsNumber`), and in a canonical form a short byte string can be told from
whatever stands behind it (`Rlp.encodeBytes_append_inj`). What is hashed for the address of a new
contract is the canonical form of the list of its creator and the digits of the nonce
(`Address.creationImage_eq_encode`), so both can be told from it (`Address.creationImage_inj`).
-/

namespace EvmBank

-- Powers are those of the core library, also beside more general ones.
attribute [local instance (high)] instPowNat

/-! ## Digits -/

namespace Bytes

/-- The bytes are the digits of `n` in base 256, the first of which is not zero. -/
structure Spells (digits : Bytes) (n : Nat) : Prop where
  value : ofBigEndian digits = n
  no_zero : digits.head? ≠ some 0

theorem ofLittleEndian_append (low high : Bytes) :
    ofLittleEndian (low ++ high) = ofLittleEndian low + 256 ^ low.length * ofLittleEndian high := by
  induction low with
  | nil => simp [ofLittleEndian]
  | cons b low ih =>
    rw [List.cons_append, ofLittleEndian, ofLittleEndian, ih, List.length_cons, Nat.pow_succ', Nat.mul_add,
      Nat.mul_assoc, Nat.add_assoc]

theorem ofBigEndian_cons (b : UInt8) (rest : Bytes) :
    ofBigEndian (b :: rest) = ofBigEndian rest + 256 ^ rest.length * b.toNat := by
  rw [ofBigEndian, List.reverse_cons, ofLittleEndian_append, List.length_reverse]
  rfl

theorem ofBigEndian_dropWhile (bytes : Bytes) :
    ofBigEndian (bytes.dropWhile (· == 0)) = ofBigEndian bytes := by
  induction bytes with
  | nil => rfl
  | cons b rest ih =>
    by_cases hb : b = 0
    · subst hb
      rw [List.dropWhile_cons_of_pos rfl, ih, ofBigEndian_cons]
      rfl
    · rw [List.dropWhile_cons_of_neg (by simpa using hb)]

theorem spells_minimalBigEndian {width n : Nat} (hfits : n < 256 ^ width) :
    (minimalBigEndian width n).Spells n where
  value := by rw [minimalBigEndian, ofBigEndian_dropWhile, ofBigEndian_bigEndian hfits]
  no_zero h := by
    have hfirst := List.head?_dropWhile_not (fun b : UInt8 => b == 0) (bigEndian width n)
    rw [minimalBigEndian] at h
    rw [h] at hfirst
    exact absurd hfirst (by decide)

theorem length_minimalBigEndian_le (width n : Nat) : (minimalBigEndian width n).length ≤ width := by
  have hle := (List.dropWhile_suffix (· == 0) (l := bigEndian width n)).length_le
  rwa [length_bigEndian] at hle

theorem spells_nil : Spells [] 0 := ⟨rfl, nofun⟩

theorem ofBigEndian_singleton (b : UInt8) : ofBigEndian [b] = b.toNat := by
  rw [ofBigEndian_cons, List.length_nil, Nat.pow_zero, Nat.one_mul]
  exact Nat.zero_add _

theorem spells_singleton {b : UInt8} (hpos : 1 ≤ b.toNat) : Spells [b] b.toNat where
  value := ofBigEndian_singleton b
  no_zero h := by
    rw [Option.some.inj h] at hpos
    exact absurd hpos (by decide)

end Bytes

/-! ## Canonical forms -/

namespace Rlp

theorem encodeBytes_byte {b : UInt8} (hb : b < 128) : encodeBytes [b] = [b] := if_pos hb

theorem encodeBytes_short {content : Bytes} (hshort : content.length ≤ 55)
    (hbyte : ∀ b, content = [b] → ¬b < 128) :
    encodeBytes content = UInt8.ofNat (0x80 + content.length) :: content := by
  unfold encodeBytes
  split
  · rename_i b
    rw [if_neg (hbyte b rfl)]
    rfl
  · rw [header, if_pos hshort, List.singleton_append]

theorem encode_list_short {items : List Item} (hshort : (encodeAll items).length ≤ 55) :
    encode (.list items) = UInt8.ofNat (0xc0 + (encodeAll items).length) :: encodeAll items := by
  rw [encode, header, if_pos hshort, List.singleton_append]

theorem encodeAll_pair (a b : Bytes) :
    encodeAll [.bytes a, .bytes b] = encodeBytes a ++ encodeBytes b := by
  simp only [encodeAll, encode, List.append_nil]

/-- A short byte string is a single byte below 128, or stands behind its length. -/
theorem encodeBytes_cases {content : Bytes} (hshort : content.length ≤ 55) :
    (∃ b : UInt8, b < 128 ∧ content = [b] ∧ encodeBytes content = [b]) ∨
      encodeBytes content = UInt8.ofNat (0x80 + content.length) :: content := by
  by_cases hbyte : ∃ b : UInt8, content = [b] ∧ b < 128
  · obtain ⟨b, rfl, hb⟩ := hbyte
    exact .inl ⟨b, hb, rfl, encodeBytes_byte hb⟩
  · exact .inr (encodeBytes_short hshort fun b hcontent hb => hbyte ⟨b, hcontent, hb⟩)

theorem toNat_mark {base count : Nat} (hbase : base ≤ 0xc0) (hcount : count ≤ 55) :
    (UInt8.ofNat (base + count)).toNat = base + count := by
  rw [UInt8.toNat_ofNat', Nat.mod_eq_of_lt (by omega)]

/-- A single byte is never a length. -/
theorem byte_ne_mark {b : UInt8} {count : Nat} (hb : b < 128) (hcount : count ≤ 55) :
    b ≠ UInt8.ofNat (0x80 + count) := by
  rintro rfl
  rw [UInt8.lt_iff_toNat_lt, toNat_mark (by decide) hcount] at hb
  exact absurd hb (Nat.not_lt.mpr (Nat.le_add_right _ _))

/-- What stands behind a short byte string can be told from it. -/
theorem encodeBytes_append_inj {a b rest rest' : Bytes} (ha : a.length ≤ 55) (hb : b.length ≤ 55)
    (h : encodeBytes a ++ rest = encodeBytes b ++ rest') : a = b ∧ rest = rest' := by
  rcases encodeBytes_cases ha with ⟨x, hx, rfl, hax⟩ | ha' <;>
    rcases encodeBytes_cases hb with ⟨y, hy, rfl, hby⟩ | hb'
  · rw [hax, hby] at h
    exact ⟨congrArg (fun z => [z]) (List.cons.inj h).1, (List.cons.inj h).2⟩
  · rw [hax, hb'] at h
    exact absurd (List.cons.inj h).1 (byte_ne_mark hx hb)
  · rw [ha', hby] at h
    exact absurd (List.cons.inj h).1.symm (byte_ne_mark hy ha)
  · rw [ha', hb'] at h
    obtain ⟨hmark, h⟩ := List.cons.inj h
    have hlength := congrArg UInt8.toNat hmark
    rw [toNat_mark (by decide) ha, toNat_mark (by decide) hb] at hlength
    exact List.append_inj h (Nat.add_left_cancel hlength)

/-- The canonical form of a number: zero is the empty byte string, a number below 128 a byte, and any
other its digits behind their number. -/
inductive IsNumber : Nat → Bytes → Prop
  | zero : IsNumber 0 [0x80]
  | byte {b : UInt8} : 1 ≤ b.toNat → b.toNat ≤ 127 → IsNumber b.toNat [b]
  | digits {n : Nat} {mark : UInt8} {digits : Bytes} : 128 ≤ n → digits.Spells n →
    digits.length ≤ 55 → mark.toNat = 0x80 + digits.length → IsNumber n (mark :: digits)

/-- The canonical form of a number is that of its digits. -/
theorem IsNumber.exists_digits {n : Nat} {text : Bytes} (h : IsNumber n text) :
    ∃ digits : Bytes, digits.Spells n ∧ digits.length ≤ 55 ∧ text = encodeBytes digits := by
  cases h with
  | zero => exact ⟨[], Bytes.spells_nil, Nat.zero_le _, rfl⟩
  | byte hpos hsmall =>
    refine ⟨_, Bytes.spells_singleton hpos, Nat.succ_le_succ (Nat.zero_le 54), (encodeBytes_byte ?_).symm⟩
    exact UInt8.lt_iff_toNat_lt.mpr (Nat.lt_succ_of_le hsmall)
  | @digits _ mark digits hlarge hspells hshort hmark =>
    refine ⟨digits, hspells, hshort, ?_⟩
    rw [encodeBytes_short hshort]
    · rw [← hmark, UInt8.ofNat_toNat]
    · -- A single digit is the number itself.
      rintro b rfl hb
      rw [← hspells.value, Bytes.ofBigEndian_singleton] at hlarge
      exact absurd (UInt8.lt_iff_toNat_lt.mp hb) (Nat.not_lt.mpr hlarge)

end Rlp

/-! ## Nonces and their senders -/

namespace Address

theorem isNumber_nonceImage (nonce : Nonce) : Rlp.IsNumber nonce.toNat (nonceImage nonce) := by
  have hfits : nonce.toNat < 256 ^ 8 := nonce.isLt
  have hlength := Bytes.length_minimalBigEndian_le 8 nonce.toNat
  unfold nonceImage
  split
  · rename_i hzero
    rw [hzero]
    exact .zero
  · rename_i hpos
    split
    · rename_i hsmall
      have hbyte : (UInt8.ofNat nonce.toNat).toNat = nonce.toNat := by
        rw [UInt8.toNat_ofNat', Nat.mod_eq_of_lt (by omega)]
      have hform := Rlp.IsNumber.byte (b := UInt8.ofNat nonce.toNat) (by omega) (by omega)
      rwa [hbyte] at hform
    · exact .digits (by omega) (Bytes.spells_minimalBigEndian hfits) (by omega)
        (Rlp.toNat_mark (by decide) (by omega))

theorem length_nonceImage_le (nonce : Nonce) : (nonceImage nonce).length ≤ 9 := by
  have hlength := Bytes.length_minimalBigEndian_le 8 nonce.toNat
  unfold nonceImage
  split
  · decide
  · split
    · exact Nat.succ_le_succ (Nat.zero_le 8)
    · exact Nat.succ_le_succ hlength

theorem encodeBytes_sender (sender : Address) :
    Rlp.encodeBytes sender.bytes = 0x94 :: sender.bytes := by
  rw [Rlp.encodeBytes_short (by rw [sender.length_bytes]; decide), sender.length_bytes]
  · rfl
  · intro b hbytes
    have hlength := sender.length_bytes
    rw [hbytes] at hlength
    cases hlength

/-- What stands behind the length of the list: the two parts of the pair. -/
theorem encodeAll_creation (sender : Address) {nonce : Nonce} {digits : Bytes}
    (hdigits : nonceImage nonce = Rlp.encodeBytes digits) :
    Rlp.encodeAll [.bytes sender.bytes, .bytes digits] = 0x94 :: sender.bytes ++ nonceImage nonce := by
  rw [Rlp.encodeAll_pair, encodeBytes_sender, hdigits]

theorem length_payload (sender : Address) (nonce : Nonce) :
    (0x94 :: sender.bytes ++ nonceImage nonce).length = 21 + (nonceImage nonce).length := by
  rw [List.length_append, List.length_cons, sender.length_bytes]

theorem creationImage_eq_encode (sender : Address) {nonce : Nonce} {digits : Bytes}
    (hdigits : nonceImage nonce = Rlp.encodeBytes digits) :
    creationImage sender nonce = Rlp.encode (.list [.bytes sender.bytes, .bytes digits]) := by
  have hpayload := encodeAll_creation sender hdigits
  have hlength := length_nonceImage_le nonce
  rw [Rlp.encode_list_short, hpayload, creationImage]
  rw [hpayload, length_payload]
  omega

/-- Two pairs are never hashed as the same bytes. -/
theorem creationImage_inj {sender sender' : Address} {nonce nonce' : Nonce}
    (h : creationImage sender nonce = creationImage sender' nonce') :
    sender = sender' ∧ nonce = nonce' := by
  obtain ⟨digits, hspells, hshort, hdigits⟩ := (isNumber_nonceImage nonce).exists_digits
  obtain ⟨digits', hspells', hshort', hdigits'⟩ := (isNumber_nonceImage nonce').exists_digits
  have hpayload := (List.cons.inj h).2
  rw [← encodeAll_creation sender hdigits, ← encodeAll_creation sender' hdigits', Rlp.encodeAll_pair,
    Rlp.encodeAll_pair] at hpayload
  have hsender (a : Address) : a.bytes.length ≤ 55 := by rw [a.length_bytes]; decide
  obtain ⟨hbytes, hrest⟩ := Rlp.encodeBytes_append_inj (hsender sender) (hsender sender') hpayload
  rw [← List.append_nil (Rlp.encodeBytes digits), ← List.append_nil (Rlp.encodeBytes digits')] at hrest
  obtain ⟨rfl, -⟩ := Rlp.encodeBytes_append_inj hshort hshort' hrest
  exact ⟨Address.ext hbytes, Quantity.ext (hspells.value.symm.trans hspells'.value)⟩

/-- The address of a new contract is taken from the hash of the canonical form of the list of its
creator and the digits of the nonce. Byte by byte this is the length of all that follows, the creator
behind its length of twenty, and the nonce as a number. No other creator and nonce have the same
form. -/
theorem creation_is_canonical (sender : Address) (nonce : Nonce) :
    (ofCreation sender nonce).bytes =
        (Digest.keccak256 (creationImage sender nonce)).bytes.drop 12 ∧
      (∃ digits : Bytes, digits.Spells nonce.toNat ∧
        creationImage sender nonce = Rlp.encode (.list [.bytes sender.bytes, .bytes digits])) ∧
      (∃ (head : UInt8) (text : Bytes), Rlp.IsNumber nonce.toNat text ∧
        head.toNat = 0xc0 + (1 + sender.bytes.length + text.length) ∧
        creationImage sender nonce = head :: 0x94 :: sender.bytes ++ text) ∧
      ∀ (sender' : Address) (nonce' : Nonce),
        creationImage sender' nonce' = creationImage sender nonce → sender' = sender ∧ nonce' = nonce := by
  have hnumber := isNumber_nonceImage nonce
  obtain ⟨digits, hspells, -, hdigits⟩ := hnumber.exists_digits
  refine ⟨rfl, ⟨digits, hspells, creationImage_eq_encode sender hdigits⟩,
    ⟨_, nonceImage nonce, hnumber, ?_, rfl⟩, fun sender' nonce' => creationImage_inj⟩
  have hlength := length_nonceImage_le nonce
  rw [length_payload, Rlp.toNat_mark (by decide) (by omega), sender.length_bytes]

example : nonceImage 1024 = [0x82, 0x04, 0x00] := by decide

end Address

end EvmBank
