import EvmBank.Address

/-!
# Addresses in hexadecimal

Digits are ASCII bytes, so the text that they make up has just these bytes. None of them is an `x`, so
only the mark in front of them is dropped, and the full text of an address is read as the address
(`Address.ofHex_toHex`). A text begins with the two bytes of the mark just where it begins with its two
characters (`Bytes.take_ofText_eq_mark`), since no other character begins with a byte of ASCII.
-/

namespace EvmBank

namespace Bytes

theorem ofText_append (s t : String) : ofText (s ++ t) = ofText s ++ ofText t := by
  rw [ofText, String.toByteArray_append, ByteArray.toList_data_append]
  rfl

theorem ofText_ofList (l : List Char) : ofText (String.ofList l) = l.flatMap String.utf8EncodeChar := by
  rw [ofText, String.toByteArray_ofList, List.utf8Encode, List.data_toByteArray, List.toList_toArray]

/-- A character of ASCII takes one byte. -/
theorem utf8EncodeChar_ofNat {b : UInt8} (hb : b.toNat < 128) :
    String.utf8EncodeChar (Char.ofNat b.toNat) = [b] := by
  have hvalid : b.toNat.isValidChar := .inl (by omega)
  have hval : (Char.ofNat b.toNat).val.toNat = b.toNat := by
    rw [Char.ofNat, dif_pos hvalid]
    rfl
  simp only [String.utf8EncodeChar, hval]
  rw [if_pos (by omega), UInt8.ofNat_toNat]

theorem ofText_ofList_ofNat {bytes : Bytes} (hall : ∀ b ∈ bytes, b.toNat < 128) :
    ofText (String.ofList (bytes.map fun b => Char.ofNat b.toNat)) = bytes := by
  rw [ofText_ofList, List.flatMap_map]
  induction bytes with
  | nil => rfl
  | cons b bytes ih =>
    rw [List.flatMap_cons, utf8EncodeChar_ofNat (hall b List.mem_cons_self),
      ih fun b hb => hall b (List.mem_cons_of_mem _ hb), List.singleton_append]

/-- A character of ASCII is that of a byte. -/
theorem exists_ascii {c : Char} (hc : c.val.toNat < 128) :
    ∃ b : UInt8, b.toNat < 128 ∧ c = Char.ofNat b.toNat := by
  have hb : (UInt8.ofNat c.val.toNat).toNat = c.val.toNat := by
    rw [UInt8.toNat_ofNat', Nat.mod_eq_of_lt (by omega)]
  refine ⟨UInt8.ofNat c.val.toNat, ?_, ?_⟩
  · rwa [hb]
  · rw [hb]
    exact (Char.ofNat_toNat c).symm

/-- A byte of ASCII at the front is a character of its own. -/
theorem utf8EncodeChar_append_eq_cons {c : Char} {b : UInt8} {tail rest : Bytes}
    (hb : b.toNat < 128) (h : String.utf8EncodeChar c ++ tail = b :: rest) :
    c = Char.ofNat b.toNat ∧ tail = rest := by
  by_cases hc : c.val.toNat < 128
  · obtain ⟨d, hd, rfl⟩ := exists_ascii hc
    rw [utf8EncodeChar_ofNat hd, List.singleton_append, List.cons.injEq] at h
    exact ⟨congrArg (fun x : UInt8 => Char.ofNat x.toNat) h.1, h.2⟩
  · -- Two, three or four bytes, the first of which is never one of ASCII.
    unfold String.utf8EncodeChar at h
    dsimp only at h
    rw [if_neg (by omega)] at h
    repeat' split at h
    all_goals
      have hfirst := congrArg UInt8.toNat (List.cons.inj h).1
      rw [UInt8.toNat_ofNat'] at hfirst
      omega

theorem ofText_mark : ofText "0x" = [48, 120] := by decide

theorem take_ofText_eq_mark {s : String} :
    (ofText s).take 2 = [48, 120] ↔ ∃ digits, s = "0x" ++ digits := by
  constructor
  · intro h
    obtain ⟨l, rfl⟩ : ∃ l, s = String.ofList l := ⟨s.toList, String.ofList_toList.symm⟩
    rw [ofText_ofList] at h
    have hsplit := List.take_append_drop 2 (l.flatMap String.utf8EncodeChar)
    rw [h] at hsplit
    obtain _ | ⟨c, l⟩ := l
    · cases hsplit
    obtain ⟨rfl, hrest⟩ := utf8EncodeChar_append_eq_cons (by decide) hsplit.symm
    obtain _ | ⟨d, l⟩ := l
    · cases hrest
    obtain ⟨rfl, -⟩ := utf8EncodeChar_append_eq_cons (by decide) hrest
    have htext : String.ofList (['0', 'x'] ++ l) = "0x" ++ String.ofList l := String.ofList_append
    exact ⟨String.ofList l, htext⟩
  · rintro ⟨digits, rfl⟩
    rw [ofText_append, ofText_mark]
    rfl

end Bytes

/-- The key begins with the mark of an address. -/
def HasMark (key : String) : Prop := ∃ digits, key = "0x" ++ digits

namespace Hex

theorem toNat_digit_lt : ∀ n < 16, (digit n).toNat < 120 := by decide

theorem toNat_lt_of_mem_digits {bytes : Bytes} {d : UInt8} (h : d ∈ digits bytes) : d.toNat < 120 := by
  obtain ⟨b, -, hd⟩ := List.mem_flatMap.mp h
  have hb := b.toNat_lt
  simp only [List.mem_cons, List.not_mem_nil, or_false] at hd
  rcases hd with rfl | rfl
  · exact toNat_digit_lt _ (by omega)
  · exact toNat_digit_lt _ (by omega)

theorem ofText_encode (bytes : Bytes) : Bytes.ofText (encode bytes) = digits bytes :=
  Bytes.ofText_ofList_ofNat fun _ hd => Nat.lt_trans (toNat_lt_of_mem_digits hd) (by decide)

end Hex

namespace Address

theorem dropMarks_digits (bytes : Bytes) : dropMarks (Hex.digits bytes) = Hex.digits bytes := by
  rw [dropMarks]
  rintro rest heq
  have hx : (120 : UInt8) ∈ Hex.digits bytes := by
    rw [heq]
    exact .tail _ List.mem_cons_self
  exact absurd (Hex.toNat_lt_of_mem_digits hx) (by decide)

/-- The full text of an address is read as the address. -/
theorem ofHex_toHex (a : Address) : ofHex a.toHex = .ok a := by
  have htext : Bytes.ofText a.toHex = 48 :: 120 :: Hex.digits a.bytes := by
    rw [toHex, Bytes.full, Bytes.ofText_append, Bytes.ofText_mark, Hex.ofText_encode]
    rfl
  rw [ofHex, ofHexBytes, htext, dropMarks, dropMarks_digits, Hex.decode_digits]
  exact dif_pos a.length_bytes

end Address

end EvmBank
