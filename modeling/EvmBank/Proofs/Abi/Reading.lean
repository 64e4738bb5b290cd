import EvmBank.Abi
import EvmBank.Proofs.Fallible

/-!
# Reading calldata

Whatever a reader accepts is the encoding of what it returns: a word that is read as an address or
as a number is the word of that address or number, and reading all arguments leaves nothing over
(`Reads.read_eq_ok`).
-/

namespace EvmBank.Abi

-- Powers are those of the core library, also beside more general ones.
attribute [local instance (high)] instPowNat

open Fallible

variable {c c' : Cursor}

theorem splitSelector_eq_ok {input selector data : Bytes}
    (h : splitSelector input = .ok (selector, data)) : input = selector ++ data := by
  unfold splitSelector at h
  split at h
  · cases h
  · rw [List.splitAt_eq] at h
    cases h
    exact (List.take_append_drop 4 input).symm

theorem word_eq_ok {w : Bytes} (h : word.run.run c = (.ok w, c')) :
    c.rest = w ++ c'.rest ∧ w.length = wordSize := by
  unfold word at h
  obtain ⟨_, _, ⟨⟩, h⟩ := run_bind_eq_ok.mp h
  dsimp only at h
  split at h
  · cases h
  · rename_i hlen
    cases h
    refine ⟨(List.take_append_drop wordSize c.rest).symm, ?_⟩
    have := List.length_take_le wordSize c.rest
    omega

/-- Twelve zero bytes are those in front of an address in its word. -/
theorem eq_word_of_zeros {w : Bytes} {a : Address} (hw : w.length = wordSize)
    (hz : (w.take 12).all (· = 0) = true) (ha : Address.ofBytes? (w.drop 12) = some a) :
    w = a.word := by
  have hbytes : a.bytes = w.drop 12 := by
    unfold Address.ofBytes? at ha
    split at ha
    · cases ha
      rfl
    · cases ha
  have hzeros : w.take 12 = List.replicate 12 0 := by
    refine List.eq_replicate_iff.mpr ⟨?_, fun b hb => ?_⟩
    · rw [List.length_take, hw]
      rfl
    · exact of_decide_eq_true (List.all_eq_true.mp hz b hb)
  rw [Address.word, hbytes, ← hzeros, List.take_append_drop]

theorem address_eq_ok {a : Address} (h : address.run.run c = (.ok a, c')) :
    c.rest = a.word ++ c'.rest := by
  unfold address at h
  obtain ⟨_, _, ⟨⟩, h⟩ := run_bind_eq_ok.mp h
  obtain ⟨w, c₁, hw, h⟩ := run_bind_eq_ok.mp h
  obtain ⟨hrest, hlen⟩ := word_eq_ok hw
  split at h
  · rename_i hz
    split at h
    · rename_i ha
      cases h
      rw [hrest, eq_word_of_zeros hlen hz ha]
    · cases h
  · cases h

/-! ## Words of numbers -/

theorem length_uintWord (n : Amount) : (uintWord n).length = wordSize :=
  Bytes.length_bigEndian wordSize n.toNat

theorem ofBigEndian_uintWord (n : Amount) : Bytes.ofBigEndian (uintWord n) = n.toNat := by
  have hfits : n.toNat < 256 ^ wordSize := n.isLt
  rw [uintWord, Bytes.ofBigEndian_bigEndian hfits]

/-- Every word is that of a number. -/
theorem exists_uintWord {w : Bytes} (hw : w.length = wordSize) :
    ∃ n : Amount, n.toNat = Bytes.ofBigEndian w ∧ uintWord n = w := by
  have hfits := Bytes.ofBigEndian_lt w
  rw [hw] at hfits
  refine ⟨⟨Bytes.ofBigEndian w, hfits⟩, rfl, ?_⟩
  rw [uintWord, ← hw, Bytes.bigEndian_ofBigEndian]

theorem clamp_toNat (n : Amount) : Quantity.clamp n.toNat = n := by
  refine Quantity.ext ?_
  rw [Quantity.toNat_clamp]
  have := n.isLt
  omega

theorem uint_eq_ok {n : Amount} (h : uint.run.run c = (.ok n, c')) :
    c.rest = uintWord n ++ c'.rest := by
  unfold uint at h
  obtain ⟨w, c₁, hw, h⟩ := run_bind_eq_ok.mp h
  obtain ⟨hrest, hlen⟩ := word_eq_ok hw
  obtain ⟨m, hm, hword⟩ := exists_uintWord hlen
  cases h
  rw [hrest, ← hm, clamp_toNat, hword]

theorem Argument.length_word (a : Argument) : a.word.length = wordSize := by
  cases a with
  | address value => exact value.length_word
  | uint value => exact length_uintWord value

theorem length_flatten_words (args : List Argument) :
    (args.map Argument.word).flatten.length = args.length * wordSize := by
  induction args with
  | nil => rfl
  | cons a rest ih =>
    rw [List.map_cons, List.flatten_cons, List.length_append, ih, a.length_word, List.length_cons,
      Nat.succ_mul, Nat.add_comm]

/-! ## Words determine arguments -/

theorem uintWord_inj {n n' : Amount} (h : uintWord n = uintWord n') : n = n' := by
  have hvalue := congrArg Bytes.ofBigEndian h
  rw [ofBigEndian_uintWord, ofBigEndian_uintWord] at hvalue
  exact Quantity.ext hvalue

theorem Argument.word_inj {a a' : Argument} (ht : a.type = a'.type) (hw : a.word = a'.word) :
    a = a' := by
  cases a <;> cases a' <;> cases ht
  · exact congrArg Argument.address (Address.ext (List.append_cancel_left hw))
  · exact congrArg Argument.uint (uintWord_inj hw)

theorem words_inj {args args' : List Argument} (ht : args.map Argument.type = args'.map Argument.type)
    (hw : (args.map Argument.word).flatten = (args'.map Argument.word).flatten) : args = args' := by
  induction args generalizing args' with
  | nil =>
    cases args' with
    | nil => rfl
    | cons => cases ht
  | cons a rest ih =>
    cases args' with
    | nil => cases ht
    | cons a' rest' =>
      obtain ⟨hta, htr⟩ := List.cons.inj ht
      obtain ⟨hwa, hwr⟩ := List.append_inj hw (a.length_word.trans a'.length_word.symm)
      rw [Argument.word_inj hta hwa, ih htr hwr]

/-! ## Whole calldata -/

/-- What a reader takes off is the words of the arguments that it returns. -/
def Reads {α : Type} (reader : Reader α) (arguments : α → List Argument) : Prop :=
  ∀ (c c' : Cursor) (a : α), reader.run.run c = (.ok a, c') →
    c.rest = ((arguments a).map Argument.word).flatten ++ c'.rest

/-- Data that is read as `count` arguments is their words and nothing else. -/
theorem Reads.read_eq_ok {α : Type} {data : Bytes} {count : Nat} {reader : Reader α} {a : α}
    {arguments : α → List Argument} (hread : Reads reader arguments)
    (hsize : argumentsSize count = (arguments a).length * wordSize)
    (h : read data count reader = .ok a) : data = ((arguments a).map Argument.word).flatten := by
  unfold read Cursor.ofArguments at h
  split at h
  · rename_i hlen
    cases hr : reader.run.run (Cursor.mk data 0) with
    | mk result c' =>
      have h : result = .ok a := by
        simpa [bind, Except.bind, hr] using h
      subst h
      have hrest := hread _ _ _ hr
      have : c'.rest = [] := by
        have := congrArg List.length hrest
        rw [List.length_append, length_flatten_words] at this
        exact List.eq_nil_of_length_eq_zero (by dsimp only at this; omega)
      rw [this, List.append_nil] at hrest
      exact hrest
  · cases h

theorem reads_none : Reads (return () : Reader Unit) fun _ => [] := by
  rintro c c' _ ⟨⟩
  rfl

theorem reads_address : Reads address fun a => [.address a] := by
  intro c c' a h
  simpa [Argument.word] using address_eq_ok h

theorem reads_addresses :
    Reads (do return (← address, ← address)) fun a => [.address a.1, .address a.2] := by
  intro c c' a h
  obtain ⟨owner, c₁, ho, h⟩ := run_bind_eq_ok.mp h
  obtain ⟨spender, c₂, hs, h⟩ := run_bind_eq_ok.mp h
  cases h
  simp [address_eq_ok ho, address_eq_ok hs, Argument.word]

theorem reads_addressUint :
    Reads (do return (← address, ← uint)) fun a => [.address a.1, .uint a.2] := by
  intro c c' a h
  obtain ⟨target, c₁, ht, h⟩ := run_bind_eq_ok.mp h
  obtain ⟨amount, c₂, hn, h⟩ := run_bind_eq_ok.mp h
  cases h
  simp [address_eq_ok ht, uint_eq_ok hn, Argument.word]

theorem reads_addressesUint :
    Reads (do return (← address, ← address, ← uint)) fun a =>
      [.address a.1, .address a.2.1, .uint a.2.2] := by
  intro c c' a h
  obtain ⟨source, c₁, hs, h⟩ := run_bind_eq_ok.mp h
  obtain ⟨target, c₂, ht, h⟩ := run_bind_eq_ok.mp h
  obtain ⟨amount, c₃, hn, h⟩ := run_bind_eq_ok.mp h
  cases h
  simp [address_eq_ok hs, address_eq_ok ht, uint_eq_ok hn, Argument.word]

end EvmBank.Abi
