import EvmBank.Header

/-!
# Encoded headers

Each reader takes one encoding from the front of a byte string and nothing else, and takes every such
encoding (`takeNumber?_eq_some`, `takeSized?_eq_some`, `takeHash?_eq_some`). Put together, a header is
read from exactly those byte strings that begin with its encoding (`decode?_eq_some`), which leaves no
room for a second header, for a part of an encoding, or for lengths and names that are not there
(`encoding_is_exact`). A length is written with eight bytes, so this is about headers whose name and
proposer are no longer than such a number can say (`Fits`); no others are read, and none is encoded
within as many bytes as such a number can count.
-/

namespace EvmBank

-- Powers are those of the core library, also beside more general ones.
attribute [local instance (high)] instPowNat

@[simp] theorem Bytes.length_ofText (s : String) : (Bytes.ofText s).length = s.utf8ByteSize := by
  rw [Bytes.ofText, Array.length_toList]
  rfl

theorem Bytes.toText?_eq_some {bytes : Bytes} {s : String} :
    Bytes.toText? bytes = some s ↔ bytes = Bytes.ofText s := by
  unfold Bytes.toText? String.fromUTF8?
  constructor
  · intro h
    split at h
    · cases h
      rfl
    · cases h
  · rintro rfl
    exact dif_pos s.isValidUTF8

namespace Header

variable {input rest content : Bytes} {h h' : Header}

/-! ## One part at a time -/

theorem takeBytes?_eq_some {count : Nat} :
    takeBytes? count input = some (content, rest) ↔
      content.length = count ∧ input = content ++ rest := by
  unfold takeBytes?
  constructor
  · intro h
    split at h
    · rename_i hle
      rw [List.splitAt_eq] at h
      cases h
      exact ⟨List.length_take_of_le hle, (List.take_append_drop count input).symm⟩
    · cases h
  · rintro ⟨rfl, rfl⟩
    rw [if_pos (by rw [List.length_append]; omega), List.splitAt_eq, List.take_left', List.drop_left']
    · rfl
    · rfl

theorem takeNumber?_eq_some {n : Quantity 64} :
    takeNumber? input = some (n, rest) ↔ input = encodeNumber n.toNat ++ rest := by
  have hwidth : n.toNat < 256 ^ 8 := n.isLt
  simp only [takeNumber?, Option.bind_eq_bind, Option.bind_eq_some_iff, Prod.exists,
    takeBytes?_eq_some, Option.pure_def, Option.some_inj, Prod.mk.injEq, Quantity.ofNat?_eq_some]
  constructor
  · rintro ⟨digits, _, ⟨hlen, rfl⟩, _, hn, rfl, rfl⟩
    rw [encodeNumber, hn, ← hlen, Bytes.littleEndian_ofLittleEndian]
  · rintro rfl
    refine ⟨encodeNumber n.toNat, rest, ⟨Bytes.length_littleEndian 8 _, rfl⟩, n, ?_, rfl, rfl⟩
    rw [encodeNumber, Bytes.ofLittleEndian_littleEndian hwidth]

theorem takeSized?_eq_some :
    takeSized? input = some (content, rest) ↔
      content.length < 2 ^ (64 : Nat) ∧ input = encodeSized content ++ rest := by
  simp only [takeSized?, Option.bind_eq_bind, Option.bind_eq_some_iff, Prod.exists,
    takeNumber?_eq_some, takeBytes?_eq_some, encodeSized]
  constructor
  · rintro ⟨count, _, rfl, hlen, rfl⟩
    rw [hlen, List.append_assoc]
    exact ⟨count.isLt, rfl⟩
  · rintro ⟨hlt, rfl⟩
    exact ⟨⟨content.length, hlt⟩, content ++ rest, by rw [List.append_assoc], rfl, rfl⟩

theorem takeHash?_eq_some {hash : Hash} :
    takeHash? input = some (hash, rest) ↔ input = hash.bytes ++ rest := by
  simp only [takeHash?, Option.bind_eq_bind, Option.bind_eq_some_iff, Prod.exists,
    takeBytes?_eq_some, Option.pure_def, Option.some_inj, Prod.mk.injEq]
  constructor
  · rintro ⟨bytes, _, ⟨hlen, rfl⟩, _, hbytes, rfl, rfl⟩
    rw [Hash.ofBytes?, dif_pos hlen] at hbytes
    cases hbytes
    rfl
  · rintro rfl
    exact ⟨hash.bytes, rest, ⟨hash.length_bytes, rfl⟩, hash, dif_pos hash.length_bytes, rfl, rfl⟩

theorem encodeNumber_append_inj {n n' : Quantity 64} {rest rest' : Bytes}
    (heq : encodeNumber n.toNat ++ rest = encodeNumber n'.toNat ++ rest') : n = n' ∧ rest = rest' := by
  have hfirst := takeNumber?_eq_some.mpr (rfl : encodeNumber n.toNat ++ rest = _)
  have hsecond := takeNumber?_eq_some.mpr heq
  exact Prod.mk.inj (Option.some_inj.mp (hfirst.symm.trans hsecond))

theorem encodeSized_append_inj {content' rest' : Bytes} (hlt : content.length < 2 ^ (64 : Nat))
    (hlt' : content'.length < 2 ^ (64 : Nat))
    (heq : encodeSized content ++ rest = encodeSized content' ++ rest') :
    content = content' ∧ rest = rest' := by
  have hfirst := takeSized?_eq_some.mpr ⟨hlt, (rfl : encodeSized content ++ rest = _)⟩
  have hsecond := takeSized?_eq_some.mpr ⟨hlt', heq⟩
  exact Prod.mk.inj (Option.some_inj.mp (hfirst.symm.trans hsecond))

/-- Behind a length there are as many bytes as it says. -/
theorem le_of_encodeSized_append {count : Quantity 64} {rest' : Bytes}
    (hlt : content.length < 2 ^ (64 : Nat))
    (heq : encodeNumber count.toNat ++ rest' = encodeSized content ++ rest) :
    count.toNat ≤ rest'.length := by
  let size : Quantity 64 := ⟨content.length, hlt⟩
  rw [encodeSized, List.append_assoc, show content.length = size.toNat from rfl] at heq
  obtain ⟨rfl, rfl⟩ := encodeNumber_append_inj heq
  rw [List.length_append]
  exact Nat.le_add_right _ _

/-! ## Whole headers -/

/-- The name of the chain and the proposer are no longer than their lengths can say. -/
structure Fits (h : Header) : Prop where
  chainId : h.chainId.utf8ByteSize < 2 ^ (64 : Nat)
  proposer : h.proposer.length < 2 ^ (64 : Nat)

theorem take?_eq_some : take? input = some (h, rest) ↔ h.Fits ∧ input = h.encode ++ rest := by
  simp only [take?, Option.bind_eq_bind, Option.bind_eq_some_iff, Prod.exists, takeSized?_eq_some,
    takeNumber?_eq_some, takeHash?_eq_some, Bytes.toText?_eq_some, Option.pure_def, Option.some_inj,
    Prod.mk.injEq]
  constructor
  · rintro ⟨_, _, ⟨hname, rfl⟩, _, rfl, _, _, rfl, _, _, rfl, _, _, ⟨hproposer, rfl⟩, _, _, rfl,
      _, _, rfl, rfl, rfl⟩
    exact ⟨⟨by simpa using hname, hproposer⟩, by simp only [encode, List.append_assoc]⟩
  · rintro ⟨hfits, rfl⟩
    refine ⟨_, _, ⟨?_, ?_⟩, h.chainId, rfl, h.height, _, rfl, h.time, _, rfl, h.proposer, _,
      ⟨hfits.proposer, rfl⟩, h.parentHash, _, rfl, h.appHash, rest, rfl, rfl, rfl⟩
    · rw [Bytes.length_ofText]
      exact hfits.chainId
    · simp only [encode, List.append_assoc]

theorem decode?_eq_some {raw : Bytes} :
    decode? raw = some h ↔ h.Fits ∧ ∃ rest, raw = h.encode ++ rest := by
  simp only [decode?, Option.map_eq_some_iff, Prod.exists, take?_eq_some]
  constructor
  · rintro ⟨_, rest, ⟨hfits, rfl⟩, rfl⟩
    exact ⟨hfits, rest, rfl⟩
  · rintro ⟨hfits, rest, rfl⟩
    exact ⟨h, rest, ⟨hfits, rfl⟩, rfl⟩

/-- What is encoded within a countable number of bytes has countable parts. -/
theorem fits_of_length_encode_lt (hlt : h.encode.length < 2 ^ (64 : Nat)) : h.Fits := by
  have hparts : h.chainId.utf8ByteSize + h.proposer.length ≤ h.encode.length := by
    simp only [encode, encodeSized, List.length_append, Bytes.length_ofText]
    omega
  exact ⟨by omega, by omega⟩

/-- No encoding goes on as another one. -/
theorem eq_of_encode_prefix (hfits : h.Fits) (hfits' : h'.Fits) (hinitial : h.encode <+: h'.encode) :
    h = h' := by
  obtain ⟨rest, hrest⟩ := hinitial
  have hfirst : decode? h'.encode = some h := decode?_eq_some.mpr ⟨hfits, rest, hrest.symm⟩
  have hsecond : decode? h'.encode = some h' :=
    decode?_eq_some.mpr ⟨hfits', [], (List.append_nil _).symm⟩
  exact Option.some_inj.mp (hfirst.symm.trans hsecond)

/-! ## Byte strings that are refused -/

/-- Part of an encoding is not enough. -/
theorem decode?_of_prefix {raw : Bytes} (hfits : h.Fits) (hinitial : raw <+: h.encode)
    (hne : raw ≠ h.encode) : decode? raw = none := by
  refine Option.eq_none_iff_forall_ne_some.mpr fun h' hread => ?_
  obtain ⟨hfits', rest', rfl⟩ := decode?_eq_some.mp hread
  obtain rfl : h' = h := eq_of_encode_prefix hfits' hfits ((List.prefix_append _ _).trans hinitial)
  have hlen := hinitial.length_le
  rw [List.length_append] at hlen
  have hnone : rest' = [] := List.eq_nil_of_length_eq_zero (by omega)
  exact hne (by rw [hnone, List.append_nil])

/-- The name of the chain is said to be longer than the input. -/
theorem decode?_of_long_name {count : Quantity 64} (hlong : rest.length < count.toNat) :
    decode? (encodeNumber count.toNat ++ rest) = none := by
  refine Option.eq_none_iff_forall_ne_some.mpr fun h hread => ?_
  obtain ⟨hfits, rest', heq⟩ := decode?_eq_some.mp hread
  simp only [encode, List.append_assoc] at heq
  have hle := le_of_encodeSized_append (by simpa using hfits.chainId) heq
  omega

/-- The proposer is said to be longer than the rest of the input. -/
theorem decode?_of_long_proposer {name : Bytes} {height : Height} {time : Seconds}
    {count : Quantity 64} (hname : name.length < 2 ^ (64 : Nat)) (hlong : rest.length < count.toNat) :
    decode? (encodeSized name ++ encodeNumber height.toNat ++ encodeNumber time.toNat ++
      encodeNumber count.toNat ++ rest) = none := by
  refine Option.eq_none_iff_forall_ne_some.mpr fun h hread => ?_
  obtain ⟨hfits, rest', heq⟩ := decode?_eq_some.mp hread
  simp only [encode, List.append_assoc] at heq
  obtain ⟨-, heq⟩ := encodeSized_append_inj hname (by simpa using hfits.chainId) heq
  obtain ⟨-, heq⟩ := encodeNumber_append_inj heq
  obtain ⟨-, heq⟩ := encodeNumber_append_inj heq
  have hle := le_of_encodeSized_append hfits.proposer heq
  omega

/-- The name of the chain is no text. -/
theorem decode?_of_no_name {name : Bytes} (hname : name.length < 2 ^ (64 : Nat))
    (hinvalid : ∀ s, name ≠ Bytes.ofText s) : decode? (encodeSized name ++ rest) = none := by
  refine Option.eq_none_iff_forall_ne_some.mpr fun h hread => ?_
  obtain ⟨hfits, rest', heq⟩ := decode?_eq_some.mp hread
  simp only [encode, List.append_assoc] at heq
  obtain ⟨hsame, -⟩ := encodeSized_append_inj hname (by simpa using hfits.chainId) heq
  exact hinvalid h.chainId hsame

/-- A header is read from exactly those byte strings that begin with its encoding, whatever stands
behind it; for byte strings whose length is a number of 64 bits, no more has to be said. So reading
undoes writing, what stands behind an encoding does not change the hash that is found, no encoding is
the same as another or goes on as another, and no header is read from part of an encoding, where a
length says more than there is, or where the name of the chain is not the bytes of a text. -/
theorem encoding_is_exact :
    (∀ raw h, decode? raw = some h ↔ h.Fits ∧ ∃ rest, raw = h.encode ++ rest) ∧
      (∀ raw : Bytes, raw.length < 2 ^ (64 : Nat) →
        ∀ h, decode? raw = some h ↔ ∃ rest, raw = h.encode ++ rest) ∧
      (∀ h : Header, h.Fits →
        decode? h.encode = some h ∧
          (∀ rest, (decode? (h.encode ++ rest)).map hash = some h.hash) ∧
          (∀ h' : Header, h'.Fits → h.encode <+: h'.encode → h = h') ∧
          ∀ raw, raw <+: h.encode → raw ≠ h.encode → decode? raw = none) ∧
      (∀ (count : Quantity 64) (rest : Bytes), rest.length < count.toNat →
        decode? (encodeNumber count.toNat ++ rest) = none ∧
          ∀ (name : Bytes) (height : Height) (time : Seconds), name.length < 2 ^ (64 : Nat) →
            decode? (encodeSized name ++ encodeNumber height.toNat ++ encodeNumber time.toNat ++
              encodeNumber count.toNat ++ rest) = none) ∧
      ∀ name rest : Bytes, name.length < 2 ^ (64 : Nat) → (∀ s, name ≠ Bytes.ofText s) →
        decode? (encodeSized name ++ rest) = none := by
  refine ⟨fun raw h => decode?_eq_some, fun raw hlt h => ?_, fun h hfits => ?_, ?_, ?_⟩
  · rw [decode?_eq_some]
    constructor
    · exact fun ⟨_, hrest⟩ => hrest
    · rintro ⟨rest, rfl⟩
      rw [List.length_append] at hlt
      exact ⟨fits_of_length_encode_lt (by omega), rest, rfl⟩
  · have hread (rest : Bytes) : decode? (h.encode ++ rest) = some h :=
      decode?_eq_some.mpr ⟨hfits, rest, rfl⟩
    refine ⟨?_, fun rest => ?_, fun h' hfits' => eq_of_encode_prefix hfits hfits', fun raw => ?_⟩
    · simpa using hread []
    · rw [hread, Option.map_some]
    · exact decode?_of_prefix hfits
  · intro count rest hlong
    exact ⟨decode?_of_long_name hlong, fun _ _ _ hname => decode?_of_long_proposer hname hlong⟩
  · intro name rest hname hinvalid
    exact decode?_of_no_name hname hinvalid

/-- The header of a block of a chain that has a name. -/
def named : Header := ⟨"chain-1", 7, 1700000000, [1, 2], .zero, .zero⟩

/-- It is read where something stands behind it, and not where its last byte is missing. -/
theorem named_is_read :
    named.Fits ∧ decode? (named.encode ++ [9]) = some named ∧
      decode? named.encode.dropLast = none := by
  have hfits : named.Fits := ⟨by decide, by decide⟩
  obtain ⟨hiff, -, hwritten, -, -⟩ := encoding_is_exact
  obtain ⟨-, -, -, hpart⟩ := hwritten named hfits
  refine ⟨hfits, (hiff _ _).mpr ⟨hfits, [9], rfl⟩, hpart _ (List.dropLast_prefix _) fun hsame => ?_⟩
  exact absurd (congrArg List.length hsame) (by decide)

end Header

end EvmBank
