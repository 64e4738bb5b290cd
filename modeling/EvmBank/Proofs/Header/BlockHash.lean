import EvmBank.Header.BlockHash
import EvmBank.Proofs.Header.Encoding
import Mathlib.Data.List.Induction

/-!
# Hashes of blocks

A store that keeps every header has, for each height, the last entry that was stored under it
(`get?_after`). Whether such an entry is used is said by `StoredHeader.Vouches`: its bytes have to begin
with a valid header of that height, and the hash beside them, if there is one, has to be that header's.
So the hash of a past block is that of such a header, or zero (`blockHash_is_verified`). The hash of the
block itself is found in the same way, but for the height: a block that carries a valid header of
another height hands out the hash of that one, which no later block does (`own_hash_seen_later`).
-/

namespace EvmBank

/-! ## Stores -/

/-- A header that is stored with its own hash, or an entry as it is. -/
inductive HeaderStep where
  | record (header : Header)
  | insert (entry : StoredHeader)

/-- What is stored. -/
def HeaderStep.entry : HeaderStep → StoredHeader
  | record header => ⟨header.height, header.hash, header.encode⟩
  | insert entry => entry

namespace HeaderStore

def step (store : HeaderStore) : HeaderStep → HeaderStore
  | .record header => store.record header
  | .insert entry => store.insert entry

/-- The store after some steps. -/
def after (store : HeaderStore) (steps : List HeaderStep) : HeaderStore := steps.foldl step store

variable {store : HeaderStore} {height : Height}

theorem after_concat (store : HeaderStore) (steps : List HeaderStep) (s : HeaderStep) :
    store.after (steps ++ [s]) = (store.after steps).step s :=
  List.foldl_append

theorem step_eq (store : HeaderStore) (s : HeaderStep) : store.step s = store.insert s.entry := by
  cases s <;> rfl

theorem retention_insert (store : HeaderStore) (entry : StoredHeader) :
    (store.insert entry).retention = store.retention := by
  obtain ⟨headers, retention⟩ := store
  cases retention <;> rfl

/-- Where nothing is dropped, an entry takes the place of what was stored under its height. -/
theorem get?_insert (hkeep : store.retention = none) (entry : StoredHeader) (height : Height) :
    (store.insert entry).get? height =
      if height = entry.height then some entry else store.get? height := by
  unfold insert
  rw [hkeep]
  exact SortedMap.get?_insert store.headers entry.height height entry

theorem retention_after (steps : List HeaderStep) : ((empty none).after steps).retention = none := by
  induction steps using List.reverseRecOn with
  | nil => rfl
  | append_singleton steps s ih =>
    rw [after_concat, step_eq, retention_insert, ih]

/-- The last of the entries that are stored under a height. -/
def last? (steps : List HeaderStep) (height : Height) : Option StoredHeader :=
  ((steps.map HeaderStep.entry).filter (·.height = height)).getLast?

theorem last?_concat (steps : List HeaderStep) (s : HeaderStep) (height : Height) :
    last? (steps ++ [s]) height =
      if height = s.entry.height then some s.entry else last? steps height := by
  unfold last?
  rw [List.map_append, List.filter_append, List.getLast?_append, List.map_singleton]
  by_cases h : s.entry.height = height
  · simp [h]
  · simp [h, Ne.symm h]

/-- Entries under other heights do not matter. -/
theorem last?_append_of_ne (steps : List HeaderStep) {more : List HeaderStep}
    (hother : ∀ s ∈ more, s.entry.height ≠ height) :
    last? (steps ++ more) height = last? steps height := by
  have hnone : (more.map HeaderStep.entry).filter (·.height = height) = [] := by
    simpa using hother
  rw [last?, List.map_append, List.filter_append, hnone, List.append_nil, last?]

theorem get?_after (steps : List HeaderStep) (height : Height) :
    ((empty none).after steps).get? height = last? steps height := by
  induction steps using List.reverseRecOn with
  | nil => rfl
  | append_singleton steps s ih =>
    rw [after_concat, step_eq, get?_insert (retention_after steps), last?_concat, ih]

end HeaderStore

/-! ## Stored headers -/

/-- The bytes begin with the encoding of a valid header: one that names its chain and has a height. -/
structure Header.Heads (h : Header) (raw : Bytes) : Prop where
  fits : h.Fits
  encoded : ∃ rest, raw = h.encode ++ rest
  named : h.chainId ≠ ""
  positive : 0 < h.height.toNat

/-- The bytes of an entry begin with a valid header of the height, and the hash beside them, if there is
one, is that of the header. -/
structure StoredHeader.Vouches (entry : StoredHeader) (height : Height) (h : Header) : Prop where
  heads : h.Heads entry.raw
  height_eq : h.height = height
  hash : entry.hash = .zero ∨ entry.hash = h.hash

theorem Header.heads_iff {raw : Bytes} {h : Header} :
    h.Heads raw ↔ decode? raw = some h ∧ h.isValid = true := by
  have hvalid : h.isValid = true ↔ h.chainId ≠ "" ∧ 0 < h.height.toNat := by simp [isValid]
  rw [decode?_eq_some, hvalid]
  constructor
  · intro hh
    exact ⟨⟨hh.fits, hh.encoded⟩, hh.named, hh.positive⟩
  · intro ⟨⟨hfits, hencoded⟩, hnamed, hpositive⟩
    exact ⟨hfits, hencoded, hnamed, hpositive⟩

/-- A valid header stands at the front of its own encoding. -/
theorem Header.heads_encode {h : Header} (hfits : h.Fits) (hvalid : h.isValid = true) :
    h.Heads h.encode :=
  heads_iff.mpr ⟨decode?_eq_some.mpr ⟨hfits, [], (List.append_nil _).symm⟩, hvalid⟩

/-- At the front of a byte string there is no more than one header. -/
theorem Header.Heads.unique {raw : Bytes} {h h' : Header} (hh : h.Heads raw) (hh' : h'.Heads raw) :
    h = h' :=
  Option.some.inj ((heads_iff.mp hh).1.symm.trans (heads_iff.mp hh').1)

namespace StoredHeader

variable {entry : StoredHeader} {height : Height}

theorem vouches_iff {h : Header} :
    entry.Vouches height h ↔ Header.decode? entry.raw = some h ∧
      (h.isValid && h.height = height && (entry.hash.isZero || entry.hash = h.hash)) = true := by
  simp only [Bool.and_eq_true, Bool.or_eq_true, decide_eq_true_eq, Hash.isZero]
  constructor
  · intro ⟨hheads, hheight, hhash⟩
    obtain ⟨hdecode, hvalid⟩ := Header.heads_iff.mp hheads
    exact ⟨hdecode, ⟨hvalid, hheight⟩, hhash⟩
  · intro ⟨hdecode, ⟨hvalid, hheight⟩, hhash⟩
    exact ⟨Header.heads_iff.mpr ⟨hdecode, hvalid⟩, hheight, hhash⟩

/-- The hash is that of the header that the entry vouches for. -/
theorem checkedHash_of_vouches {h : Header} (hv : entry.Vouches height h) :
    entry.checkedHash height = h.hash := by
  obtain ⟨hdecode, hchecks⟩ := vouches_iff.mp hv
  simp only [checkedHash, hdecode]
  exact if_pos hchecks

/-- It is zero where there is no such header. -/
theorem checkedHash_of_none (hnone : ∀ h, ¬entry.Vouches height h) :
    entry.checkedHash height = .zero := by
  unfold checkedHash
  cases hdecode : Header.decode? entry.raw with
  | none => rfl
  | some h => exact if_neg fun hchecks => hnone h (vouches_iff.mpr ⟨hdecode, hchecks⟩)

end StoredHeader

/-! ## Hashes of other blocks -/

namespace HeaderStore

variable {store : HeaderStore} {b : Block} {height : Height}

theorem blockHash_future (store : HeaderStore) (hlt : b.height < height) :
    store.blockHash b height = .zero := by
  have hlt := Quantity.lt_def.mp hlt
  rw [blockHash, if_neg, if_neg]
  · rw [Quantity.lt_def]
    omega
  · rintro rfl
    omega

theorem blockHash_past (store : HeaderStore) (hlt : height < b.height) :
    store.blockHash b height =
      match store.get? height with
      | some entry => entry.checkedHash height
      | none => .zero := by
  have hne : height ≠ b.height := by
    rintro rfl
    exact Nat.lt_irrefl _ (Quantity.lt_def.mp hlt)
  refine (if_neg hne).trans ((if_pos hlt).trans ?_)
  cases store.get? height <;> rfl

/-- A store that keeps every header, however it was filled, gives for a past block the hash of the
header that the last entry under its height vouches for, and zero if there is no such entry or no such
header. For a block to come it gives zero. So the hash of a valid header that was recorded is given from
then on, whatever is stored under other heights. -/
theorem blockHash_is_verified (steps : List HeaderStep) (b : Block) (height : Height) :
    (b.height < height → ((empty none).after steps).blockHash b height = .zero) ∧
      (height < b.height →
        (∀ entry h, last? steps height = some entry → entry.Vouches height h →
          ((empty none).after steps).blockHash b height = h.hash) ∧
        ((∀ entry h, last? steps height = some entry → ¬entry.Vouches height h) →
          ((empty none).after steps).blockHash b height = .zero)) ∧
      ∀ before h later, steps = before ++ .record h :: later →
        (∀ s ∈ later, s.entry.height ≠ height) → h.height = height → h.isValid = true → h.Fits →
        height < b.height → ((empty none).after steps).blockHash b height = h.hash := by
  have hfound : ∀ entry h, height < b.height → last? steps height = some entry →
      entry.Vouches height h → ((empty none).after steps).blockHash b height = h.hash := by
    intro entry h hlt hlast hv
    simp only [blockHash_past _ hlt, get?_after, hlast]
    exact StoredHeader.checkedHash_of_vouches hv
  refine ⟨blockHash_future _, fun hlt => ⟨fun entry h => hfound entry h hlt, fun hnone => ?_⟩, ?_⟩
  · rw [blockHash_past _ hlt, get?_after]
    cases hlast : last? steps height with
    | none => rfl
    | some entry => exact StoredHeader.checkedHash_of_none fun h => hnone entry h hlast
  · rintro before h later rfl hother rfl hvalid hfits hlt
    have hlast : last? (before ++ .record h :: later) h.height = some (HeaderStep.record h).entry := by
      rw [List.append_cons, last?_append_of_ne _ hother, last?_concat]
      exact if_pos rfl
    exact hfound _ h hlt hlast ⟨Header.heads_encode hfits hvalid, rfl, .inr rfl⟩

/-- The header of block 7 is recorded, and then stored once more under height 8. -/
def misfiled : List HeaderStep := [.record .named, .insert ⟨8, .zero, Header.named.encode⟩]

/-- From block 9 on, block 7 has the hash of its header, which is not zero, and the hash of block 8 is not
known. -/
theorem misfiled_header_is_refused :
    let b : Block := ⟨9, 1000, [], 1, none, none, none⟩
    ((empty none).after misfiled).blockHash b 7 = Header.named.hash ∧ Header.named.hash ≠ .zero ∧
      ((empty none).after misfiled).blockHash b 8 = .zero := by
  intro b
  have hheads : Header.named.Heads Header.named.encode :=
    Header.heads_encode ⟨by decide, by decide⟩ rfl
  obtain ⟨-, hrecorded, -⟩ := blockHash_is_verified misfiled b 7
  obtain ⟨-, hmisfiled, -⟩ := blockHash_is_verified misfiled b 8
  have hhash : Header.named.hash ≠ .zero := by decide +kernel
  refine ⟨(hrecorded (by decide)).1 _ _ rfl ⟨hheads, rfl, .inr rfl⟩, hhash,
    (hmisfiled (by decide)).2 ?_⟩
  rintro entry h ⟨⟩ hv
  obtain rfl := hheads.unique hv.heads
  exact absurd hv.height_eq (by decide)

/-! ## The hash of the block itself -/

/-- Without a hash that is given, the header that the block carries decides, whatever its height. -/
theorem ownHash_eq {raw : Bytes} (hgiven : ∀ h, b.headerHash = some h → h = .zero)
    (hraw : b.rawHeader = some raw) :
    (∀ h : Header, h.Heads raw → b.ownHash = h.hash) ∧
      ((∀ h : Header, ¬h.Heads raw) → b.ownHash = .zero) := by
  have hnone : (b.headerHash.filter fun h => !h.isZero) = none := by
    refine Option.filter_eq_none_iff.mpr fun h hh => ?_
    simp [hgiven h hh, Hash.isZero]
  unfold Block.ownHash
  rw [hnone, hraw, Option.bind_some]
  constructor
  · intro h hh
    obtain ⟨hdecode, hvalid⟩ := Header.heads_iff.mp hh
    rw [hdecode]
    exact if_pos hvalid
  · intro hno
    cases hdecode : Header.decode? raw with
    | none => rfl
    | some h => exact if_neg fun hvalid => hno h (Header.heads_iff.mpr ⟨hdecode, hvalid⟩)

/-- A block that carries its header, without a hash that is given, has for itself the same hash as for
any later block that finds these bytes stored under its height, without a hash; unless they are a valid
header of another height, of which it hands out the hash, and no later block does. -/
theorem own_hash_seen_later {later : Block} {entry : StoredHeader}
    (hgiven : ∀ h, b.headerHash = some h → h = .zero) (hraw : b.rawHeader = some entry.raw)
    (hstored : store.get? b.height = some entry) (hhash : entry.hash = .zero)
    (hlater : b.height < later.height) (other : HeaderStore) :
    ((∀ h : Header, h.Heads entry.raw → h.height = b.height) →
      other.blockHash b b.height = store.blockHash later b.height) ∧
    ∀ h : Header, h.Heads entry.raw → h.height ≠ b.height →
      other.blockHash b b.height = h.hash ∧ store.blockHash later b.height = .zero := by
  have hown : other.blockHash b b.height = b.ownHash := if_pos rfl
  have hseen : store.blockHash later b.height = entry.checkedHash b.height := by
    simp only [blockHash_past _ hlater, hstored]
  obtain ⟨hvalid, hinvalid⟩ := ownHash_eq hgiven hraw
  rw [hown, hseen]
  constructor
  · intro hplaced
    by_cases hsome : ∃ h : Header, h.Heads entry.raw
    · obtain ⟨h, hh⟩ := hsome
      rw [hvalid h hh, StoredHeader.checkedHash_of_vouches ⟨hh, hplaced h hh, .inl hhash⟩]
    · rw [hinvalid fun h hh => hsome ⟨h, hh⟩,
        StoredHeader.checkedHash_of_none fun h hv => hsome ⟨h, hv.heads⟩]
  · intro h hh hother
    refine ⟨hvalid h hh, StoredHeader.checkedHash_of_none fun h' hv => ?_⟩
    obtain rfl := hh.unique hv.heads
    exact hother hv.height_eq

/-- A block that carries the header of block 7. -/
def carrying (height : Height) : Block := ⟨height, 1000, [], 1, none, none, some Header.named.encode⟩

/-- A store that has these bytes under a height. -/
def storing (height : Height) : HeaderStore :=
  (empty none).insert ⟨height, .zero, Header.named.encode⟩

/-- Block 7 itself has the hash that block 9 finds for it. -/
theorem carried_header_seen_later :
    (carrying 7).height < (carrying 9).height ∧
      (storing 7).blockHash (carrying 7) 7 = (storing 7).blockHash (carrying 9) 7 := by
  have hheads : Header.named.Heads Header.named.encode :=
    Header.heads_encode ⟨by decide, by decide⟩ rfl
  obtain ⟨hsame, -⟩ := @own_hash_seen_later (storing 7) (carrying 7) (carrying 9)
    ⟨7, .zero, Header.named.encode⟩ nofun rfl rfl rfl (by decide) (storing 7)
  refine ⟨by decide, hsame fun h hh => ?_⟩
  obtain rfl := hheads.unique hh
  rfl

/-- Block 8 has the hash of the header that it carries, which is that of block 7, and block 9 does not
know it. -/
theorem carried_header_of_another_height :
    (carrying 8).height < (carrying 9).height ∧
      (storing 8).blockHash (carrying 8) 8 = Header.named.hash ∧
      (storing 8).blockHash (carrying 9) 8 = .zero ∧
      (storing 8).blockHash (carrying 8) 8 ≠ (storing 8).blockHash (carrying 9) 8 := by
  have hown : (storing 8).blockHash (carrying 8) 8 = Header.named.hash := by decide +kernel
  have hseen : (storing 8).blockHash (carrying 9) 8 = .zero := by decide +kernel
  refine ⟨by decide, hown, hseen, ?_⟩
  rw [hown, hseen]
  decide +kernel

end HeaderStore

end EvmBank
