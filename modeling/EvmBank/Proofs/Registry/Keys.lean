import EvmBank.Proofs.Address.Hexadecimal
import EvmBank.Proofs.Registry.History

/-!
# What a key names

A pair is named by its denomination, and by each text that is read as its address and begins with the
mark `0x` (`TokenPair.IsNamedBy`). A valid denomination begins with a letter, so no key is both. Thus a
key finds the registered pair that it names (`Bijective.find?_eq_some`), and no other is named by it.
Toggling turns the flag of that pair. The names of a pair do not depend on its flag, so toggling it again
by any of them takes the registry back (`Bijective.toggle_again`).
-/

namespace EvmBank

/-- The key is the denomination of the pair, or is read as its address and has the mark. -/
def TokenPair.IsNamedBy (p : TokenPair) (key : String) : Prop :=
  key = p.denom ∨ HasMark key ∧ Address.ofHex key = .ok p.address

/-- A valid denomination begins with a letter. -/
theorem Denom.not_hasMark {d : Denom} (hd : isValid d = true) : ¬HasMark d := by
  rintro ⟨digits, rfl⟩
  have hfirst : ("0x" ++ digits).toList = '0' :: 'x' :: digits.toList := by
    rw [String.toList_append]
    rfl
  rw [isValid, hfirst, Bool.and_eq_true] at hd
  exact absurd hd.2 Bool.false_ne_true

namespace TokenPair

variable {p : TokenPair}

theorem toggled_toggled (p : TokenPair) : p.toggled.toggled = p := by
  obtain ⟨address, denom, enabled, owner⟩ := p
  simp only [toggled, Bool.not_not]

theorem isNamedBy_toggled {key : String} : p.toggled.IsNamedBy key ↔ p.IsNamedBy key := Iff.rfl

theorem isNamedBy_denom (p : TokenPair) : p.IsNamedBy p.denom := .inl rfl

theorem isNamedBy_toHex (p : TokenPair) : p.IsNamedBy p.address.toHex :=
  .inr ⟨⟨Hex.encode p.address.bytes, rfl⟩, Address.ofHex_toHex p.address⟩

end TokenPair

namespace Registry

variable {r r' : Registry} {p q : TokenPair} {key : String} {steps : List RegistryStep}

/-! ## Finding a pair -/

theorem find?_of_not_hasMark (hkey : ¬HasMark key) : r.find? key = r.lookup key := by
  unfold find?
  split
  · exact if_neg fun hmark => hkey (Bytes.take_ofText_eq_mark.mp hmark)
  · rfl

/-- What has the mark and is no address is not a denomination either. -/
theorem Bijective.find?_of_hasMark (hr : r.Bijective) (hkey : HasMark key) :
    r.find? key = (Address.ofHex key).toOption.bind r.lookupAddress := by
  unfold find?
  split
  · rename_i a hread
    rw [hread]
    exact if_pos (Bytes.take_ofText_eq_mark.mpr hkey)
  · rename_i cause hread
    rw [hread]
    cases hlookup : r.lookup key with
    | none => rfl
    | some q => exact absurd hkey (Denom.not_hasMark (hr.isValid hlookup))

namespace Bijective

theorem find?_eq_some (hr : r.Bijective) :
    r.find? key = some p ↔ r.lookup p.denom = some p ∧ p.IsNamedBy key := by
  by_cases hkey : HasMark key
  · rw [hr.find?_of_hasMark hkey, Option.bind_eq_some_iff]
    constructor
    · intro ⟨a, hread, hp⟩
      obtain ⟨rfl, hlookup⟩ := hr.of_lookupAddress hp
      exact ⟨hlookup, .inr ⟨hkey, Fallible.toOption_eq_some.mp hread⟩⟩
    · rintro ⟨hlookup, rfl | ⟨-, hread⟩⟩
      · exact absurd hkey (Denom.not_hasMark (hr.isValid hlookup))
      · exact ⟨p.address, Fallible.toOption_eq_some.mpr hread, hr.lookupAddress_address hlookup⟩
  · rw [find?_of_not_hasMark hkey]
    constructor
    · intro hlookup
      exact ⟨hr.lookup_denom hlookup, .inl (hr.denom_eq hlookup).symm⟩
    · rintro ⟨hlookup, rfl | ⟨hmark, -⟩⟩
      · exact hlookup
      · exact absurd hmark hkey

theorem get_eq_ok (hr : r.Bijective) : r.get key = .ok p ↔ p ∈ r.toList ∧ p.IsNamedBy key := by
  rw [hr.mem_toList, ← hr.find?_eq_some, get]
  cases r.find? key with
  | none => exact ⟨nofun, nofun⟩
  | some q => rw [Except.ok.injEq, Option.some_inj]

theorem get_eq_error (hr : r.Bijective) {cause : RegistryError} :
    r.get key = .error cause ↔ cause = .notFound key ∧ ∀ p ∈ r.toList, ¬p.IsNamedBy key := by
  cases hget : r.get key with
  | ok p =>
    obtain ⟨hp, hnamed⟩ := hr.get_eq_ok.mp hget
    exact ⟨nofun, fun ⟨_, hnone⟩ => absurd hnamed (hnone p hp)⟩
  | error cause' =>
    have hcause : cause' = .notFound key := by
      unfold get at hget
      split at hget
      · cases hget
      · exact (Except.error.inj hget).symm
    rw [Except.error.injEq, hcause, eq_comm]
    refine (and_iff_left fun p hp hnamed => ?_).symm
    cases hget.symm.trans (hr.get_eq_ok.mpr ⟨hp, hnamed⟩)

/-- No key names two pairs. -/
theorem eq_of_isNamedBy (hr : r.Bijective) (hp : p ∈ r.toList) (hq : q ∈ r.toList)
    (hpkey : p.IsNamedBy key) (hqkey : q.IsNamedBy key) : p = q :=
  Except.ok.inj ((hr.get_eq_ok.mpr ⟨hp, hpkey⟩).symm.trans (hr.get_eq_ok.mpr ⟨hq, hqkey⟩))

/-! ## Toggling a pair -/

/-- The registry with the flag of one of its pairs the other way. -/
theorem toggle_of_get (hr : r.Bijective) (hget : r.get key = .ok p) :
    r.toggle key = .ok (p.toggled, { r with pairs := r.pairs.insert p.denom p.toggled }) := by
  obtain ⟨hp, hnamed⟩ := hr.get_eq_ok.mp hget
  exact (toggle_eq_ok hr).mpr ⟨p, hr.find?_eq_some.mpr ⟨hr.mem_toList.mp hp, hnamed⟩, rfl, rfl⟩

theorem toggle_eq_error (hr : r.Bijective) {cause : RegistryError} :
    r.toggle key = .error cause ↔ r.get key = .error cause := by
  cases hget : r.get key with
  | ok p =>
    rw [hr.toggle_of_get hget]
    exact ⟨nofun, nofun⟩
  | error cause' =>
    rw [Registry.toggle, hget, Except.error.injEq]
    exact iff_of_eq (Except.error.injEq cause' cause)

/-- By whatever name a pair is toggled a second time, the registry is as it was. -/
theorem toggle_again (hr : r.Bijective) (hp : r.lookup p.denom = some p) (hkey : p.IsNamedBy key) :
    ({ r with pairs := r.pairs.insert p.denom p.toggled } : Registry).toggle key = .ok (p, r) := by
  have hlookup := lookup_toggled r p p.denom
  rw [if_pos rfl] at hlookup
  have hr' := hr.toggled hp
  have hfind := hr'.find?_eq_some.mpr ⟨hlookup, TokenPair.isNamedBy_toggled.mpr hkey⟩
  refine (toggle_eq_ok hr').mpr ⟨p.toggled, hfind, p.toggled_toggled.symm, ?_⟩
  have hpairs : r.pairs = (r.pairs.insert p.denom p.toggled).insert p.denom p := by
    refine SortedMap.ext_get? fun d => ?_
    rw [SortedMap.get?_insert, SortedMap.get?_insert]
    by_cases hd : d = p.denom
    · rw [if_pos hd, hd]
      exact hp
    · rw [if_neg hd, if_neg hd]
  rw [TokenPair.toggled_toggled]
  exact congrArg (Registry.mk · r.denoms) hpairs

end Bijective

/-- Whatever was done to a registry that was empty, a key finds the one pair that it names, and nothing
is found just where it names none. So a pair is found by its denomination, also where that has only
digits, and by the full text of its address. Toggling fails just where nothing is found. Otherwise it
turns the flag of the pair that is found and nothing else, and if it is done again by any key that names
the pair, the registry is as it was. The same holds where the registry is toggled in place, which leaves it
as it is if it fails. -/
theorem keys_are_unambiguous (hr : empty.after steps = r) :
    (∀ key p, r.get key = .ok p ↔ p ∈ r.toList ∧ p.IsNamedBy key) ∧
    (∀ key, ∀ p ∈ r.toList, ∀ q ∈ r.toList, p.IsNamedBy key → q.IsNamedBy key → p = q) ∧
    (∀ key cause, r.get key = .error cause ↔
      cause = .notFound key ∧ ∀ p ∈ r.toList, ¬p.IsNamedBy key) ∧
    (∀ p ∈ r.toList, r.get p.denom = .ok p ∧ r.get p.address.toHex = .ok p) ∧
    (∀ key cause, r.toggle key = .error cause ↔ r.get key = .error cause) ∧
    (∀ key cause, (RegistryAction.toggle key).run.run r = (.error cause, r) ↔
      r.get key = .error cause) ∧
    ∀ key p, r.get key = .ok p → ∃ r', r.toggle key = .ok ({ p with enabled := !p.enabled }, r') ∧
      (RegistryAction.toggle key).run.run r = (.ok { p with enabled := !p.enabled }, r') ∧
      r'.denoms = r.denoms ∧
      (∀ d, r'.pairs.get? d =
        if d = p.denom then some { p with enabled := !p.enabled } else r.pairs.get? d) ∧
      ∀ again, p.IsNamedBy again → r'.toggle again = .ok (p, r) ∧
        (RegistryAction.toggle again).run.run r' = (.ok p, r) := by
  have hbij : r.Bijective := hr ▸ Bijective.empty.after steps
  refine ⟨fun key p => hbij.get_eq_ok, fun key p hp q hq => hbij.eq_of_isNamedBy hp hq,
    fun key cause => hbij.get_eq_error, fun p hp => ⟨?_, ?_⟩, fun key cause => hbij.toggle_eq_error,
    fun key cause => RegistryAction.run_toggle_eq_error.trans hbij.toggle_eq_error,
    fun key p hget => ?_⟩
  · exact hbij.get_eq_ok.mpr ⟨hp, p.isNamedBy_denom⟩
  · exact hbij.get_eq_ok.mpr ⟨hp, p.isNamedBy_toHex⟩
  · obtain ⟨hp, -⟩ := hbij.get_eq_ok.mp hget
    have htoggle := hbij.toggle_of_get hget
    refine ⟨_, htoggle, RegistryAction.run_toggle_of_ok htoggle, rfl, lookup_toggled r p,
      fun again hagain => ?_⟩
    have hback := hbij.toggle_again (hbij.mem_toList.mp hp) hagain
    exact ⟨hback, RegistryAction.run_toggle_of_ok hback⟩

/-- The denomination of the first pair has the digits of the address of the second. -/
def lookalikes : List RegistryStep :=
  let other : Address := ⟨List.replicate 20 0xab, List.length_replicate⟩
  [.register ⟨Address.ofLow 170, "abababababababababababababababababababab", true, .external⟩,
    .register ⟨other, "uusdx", true, .external⟩]

/-- Without the mark the digits name the first pair. With it, in either case and also twice, they name
the second, which is toggled and toggled back, also in place. -/
theorem lookalikes_are_told_apart :
    ∃ p q r', p.denom = "abababababababababababababababababababab" ∧ q.denom = "uusdx" ∧
      (empty.after lookalikes).get "abababababababababababababababababababab" = .ok p ∧
      (empty.after lookalikes).get "0xABABABABABABABABABABABABABABABABABABABAB" = .ok q ∧
      (empty.after lookalikes).get "0x0xabababababababababababababababababababab" = .ok q ∧
      (empty.after lookalikes).toggle "0x0xabababababababababababababababababababab" =
        .ok ({ q with enabled := false }, r') ∧
      r'.toggle "uusdx" = .ok (q, empty.after lookalikes) ∧
      (RegistryAction.toggle "uusdx").run.run r' = (.ok q, empty.after lookalikes) := by
  have hr : empty.after lookalikes = empty.after lookalikes := rfl
  obtain ⟨hget, -, -, hnames, -, -, htoggle⟩ := keys_are_unambiguous hr
  have hp : (⟨Address.ofLow 170, "abababababababababababababababababababab", true,
      .external⟩ : TokenPair) ∈ (empty.after lookalikes).toList := by decide +kernel
  have hq : (⟨⟨List.replicate 20 0xab, List.length_replicate⟩, "uusdx", true, .external⟩ : TokenPair) ∈
      (empty.after lookalikes).toList := by decide +kernel
  have hupper := (hget "0xABABABABABABABABABABABABABABABABABABABAB" _).mpr
    ⟨hq, .inr ⟨⟨"ABABABABABABABABABABABABABABABABABABABAB", rfl⟩, by decide +kernel⟩⟩
  have htwice := (hget "0x0xabababababababababababababababababababab" _).mpr
    ⟨hq, .inr ⟨⟨"0xabababababababababababababababababababab", rfl⟩, by decide +kernel⟩⟩
  obtain ⟨r', htoggled, -, -, -, hagain⟩ := htoggle _ _ htwice
  exact ⟨_, _, r', rfl, rfl, (hnames _ hp).1, hupper, htwice, htoggled, hagain _ (.inl rfl)⟩

end Registry

end EvmBank
