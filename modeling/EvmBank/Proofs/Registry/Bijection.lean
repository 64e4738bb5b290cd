import EvmBank.Registry

/-!
# The two views of a registry

A registry is kept by denomination, with an index by address. `Registry.Bijective` says that the two
are inverse to each other and hold valid pairs only. A pair is admitted if its parts are valid and free
(`register_eq_ok`), and then the invariant is kept; toggling a pair changes nothing but its flag
(`toggle_eq_ok`). What a list of pairs comes to is found out by induction on the list: it is accepted
if its pairs are admitted and differ in both parts (`ofList_isOk`), and holds them and nothing else
(`lookup_ofList`). So the list of a registry makes it up again (`Bijective.ofList_toList`). Neither a
pair more nor a pair toggled costs another pair its place (`Bijective.register`, `Bijective.toggle`).
-/

namespace EvmBank

namespace Registry

variable {r r' : Registry} {p q : TokenPair} {d : Denom} {a : Address} {key : String}
  {pairs : List TokenPair}

/-- Both views show the same pairs, under the names that the pairs have, and the pairs are valid. -/
structure Bijective (r : Registry) : Prop where
  denom_eq : ∀ {d p}, r.lookup d = some p → p.denom = d
  isValid : ∀ {d p}, r.lookup d = some p → Denom.isValid d = true
  address_ne_zero : ∀ {d p}, r.lookup d = some p → p.address ≠ .zero
  denoms_get? : ∀ {d p}, r.lookup d = some p → r.denoms.get? p.address = some d
  exists_pair : ∀ {a d}, r.denoms.get? a = some d → ∃ p, r.lookup d = some p ∧ p.address = a

theorem Bijective.empty : Bijective empty :=
  ⟨nofun, nofun, nofun, nofun, nofun⟩

namespace Bijective

theorem lookup_denom (hr : r.Bijective) (h : r.lookup d = some p) : r.lookup p.denom = some p := by
  rw [hr.denom_eq h]
  exact h

theorem lookupAddress_address (hr : r.Bijective) (h : r.lookup d = some p) :
    r.lookupAddress p.address = some p := by
  rw [lookupAddress, hr.denoms_get? h]
  exact h

theorem of_lookupAddress (hr : r.Bijective) (h : r.lookupAddress a = some p) :
    p.address = a ∧ r.lookup p.denom = some p := by
  obtain ⟨d, hd, hp⟩ := Option.bind_eq_some_iff.mp h
  obtain ⟨q, hq, ha⟩ := hr.exists_pair hd
  cases hp.symm.trans hq
  exact ⟨ha, hr.lookup_denom hq⟩

theorem lookupAddress_eq_none (hr : r.Bijective) :
    r.lookupAddress a = none ↔ r.denoms.get? a = none := by
  refine ⟨fun h => ?_, fun h => by rw [lookupAddress, h, Option.bind_none]⟩
  cases hd : r.denoms.get? a with
  | none => rfl
  | some d =>
    obtain ⟨q, hq, rfl⟩ := hr.exists_pair hd
    cases h.symm.trans (hr.lookupAddress_address hq)

/-- Whatever key a pair is found by, it is registered. -/
theorem of_find? (hr : r.Bijective) (h : r.find? key = some p) : r.lookup p.denom = some p := by
  unfold find? at h
  split at h
  · split at h
    · exact (hr.of_lookupAddress h).2
    · exact hr.lookup_denom h
  · exact hr.lookup_denom h

end Bijective

/-! ## Registering a pair -/

/-- The parts of the pair are valid, and free. -/
structure Admits (r : Registry) (p : TokenPair) : Prop where
  isValid : Denom.isValid p.denom = true
  address_ne_zero : p.address ≠ .zero
  denom_free : r.lookup p.denom = none
  address_free : r.denoms.get? p.address = none

/-- A registry with one pair more. -/
def add (r : Registry) (p : TokenPair) : Registry :=
  ⟨r.pairs.insert p.denom p, r.denoms.insert p.address p.denom⟩

theorem register_eq_ok : r.register p = .ok r' ↔ r.Admits p ∧ r' = r.add p := by
  have hfree (k : Denom) : r.pairs.contains k = true ↔ r.lookup k ≠ none := by
    rw [SortedMap.contains, lookup, ne_eq, Option.isSome_iff_ne_none]
  have hfree' (k : Address) : r.denoms.contains k = true ↔ r.denoms.get? k ≠ none := by
    rw [SortedMap.contains, ne_eq, Option.isSome_iff_ne_none]
  unfold register
  constructor
  · intro h
    split at h
    · cases h
    rename_i hvalid
    split at h
    · cases h
    rename_i hzero
    split at h
    · cases h
    rename_i hdenom
    split at h
    · cases h
    rename_i haddress
    cases h
    refine ⟨⟨by simpa using hvalid, by simpa [Address.isZero] using hzero, ?_, ?_⟩, rfl⟩
    · exact Classical.not_not.mp fun h => hdenom ((hfree _).mpr h)
    · exact Classical.not_not.mp fun h => haddress ((hfree' _).mpr h)
  · rintro ⟨hp, rfl⟩
    have hzero : ¬p.address.isZero = true := by simpa [Address.isZero] using hp.address_ne_zero
    rw [if_neg (by simp [hp.isValid]), if_neg hzero, if_neg fun h => (hfree _).mp h hp.denom_free,
      if_neg fun h => (hfree' _).mp h hp.address_free]
    rfl

theorem lookup_add (r : Registry) (p : TokenPair) (d : Denom) :
    (r.add p).lookup d = if d = p.denom then some p else r.lookup d :=
  SortedMap.get?_insert r.pairs p.denom d p

theorem denoms_add (r : Registry) (p : TokenPair) (a : Address) :
    (r.add p).denoms.get? a = if a = p.address then some p.denom else r.denoms.get? a :=
  SortedMap.get?_insert r.denoms p.address a p.denom

/-- Beside a pair that was admitted, another is admitted that differs in both parts. -/
theorem admits_add : (r.add p).Admits q ↔ r.Admits q ∧ p.denom ≠ q.denom ∧ p.address ≠ q.address := by
  constructor
  · rintro ⟨hvalid, hzero, hdenom, haddress⟩
    rw [lookup_add] at hdenom
    rw [denoms_add] at haddress
    split at hdenom
    · cases hdenom
    rename_i hd
    split at haddress
    · cases haddress
    rename_i ha
    exact ⟨⟨hvalid, hzero, hdenom, haddress⟩, Ne.symm hd, Ne.symm ha⟩
  · rintro ⟨⟨hvalid, hzero, hdenom, haddress⟩, hd, ha⟩
    refine ⟨hvalid, hzero, ?_, ?_⟩
    · rwa [lookup_add, if_neg (Ne.symm hd)]
    · rwa [denoms_add, if_neg (Ne.symm ha)]

theorem Bijective.add (hr : r.Bijective) (hp : r.Admits p) : (r.add p).Bijective := by
  -- A pair of the larger registry is the new one or one of the others, which have other names.
  have hcases {d : Denom} {q : TokenPair} (h : (r.add p).lookup d = some q) :
      q = p ∧ d = p.denom ∨ r.lookup d = some q ∧ q.address ≠ p.address := by
    rw [lookup_add] at h
    split at h
    · rename_i hd
      cases h
      exact .inl ⟨rfl, hd⟩
    · refine .inr ⟨h, fun ha => ?_⟩
      have hindex := hr.denoms_get? h
      rw [ha, hp.address_free] at hindex
      cases hindex
  refine ⟨fun h => ?_, fun h => ?_, fun h => ?_, fun h => ?_, fun {a d} h => ?_⟩
  · rcases hcases h with ⟨rfl, rfl⟩ | ⟨hold, -⟩
    · rfl
    · exact hr.denom_eq hold
  · rcases hcases h with ⟨rfl, rfl⟩ | ⟨hold, -⟩
    · exact hp.isValid
    · exact hr.isValid hold
  · rcases hcases h with ⟨rfl, rfl⟩ | ⟨hold, -⟩
    · exact hp.address_ne_zero
    · exact hr.address_ne_zero hold
  · rcases hcases h with ⟨rfl, rfl⟩ | ⟨hold, hother⟩
    · rw [denoms_add, if_pos rfl]
    · rw [denoms_add, if_neg hother]
      exact hr.denoms_get? hold
  · rw [denoms_add] at h
    split at h
    · rename_i ha
      cases h
      exact ⟨p, by rw [lookup_add, if_pos rfl], ha.symm⟩
    · obtain ⟨q, hq, ha⟩ := hr.exists_pair h
      have hd : d ≠ p.denom := by
        rintro rfl
        cases hp.denom_free.symm.trans hq
      exact ⟨q, by rwa [lookup_add, if_neg hd], ha⟩

/-- A pair is refused for what is wrong with it, and for nothing else. -/
theorem register_eq_error_iff (hr : r.Bijective) :
    (∃ cause, r.register p = .error cause) ↔
      Denom.isValid p.denom = false ∨ p.address = .zero ∨ (r.lookup p.denom).isSome = true ∨
        (r.lookupAddress p.address).isSome = true := by
  have hadmits : r.Admits p ↔ ¬(Denom.isValid p.denom = false ∨ p.address = .zero ∨
      (r.lookup p.denom).isSome = true ∨ (r.lookupAddress p.address).isSome = true) := by
    simp only [not_or, Bool.not_eq_false, Bool.not_eq_true, Option.isSome_eq_false_iff,
      Option.isNone_iff_eq_none, hr.lookupAddress_eq_none]
    exact ⟨fun h => ⟨h.isValid, h.address_ne_zero, h.denom_free, h.address_free⟩,
      fun ⟨h₁, h₂, h₃, h₄⟩ => ⟨h₁, h₂, h₃, h₄⟩⟩
  cases hregister : r.register p with
  | ok r' =>
    have hp := (register_eq_ok.mp hregister).1
    exact ⟨nofun, fun h => absurd h (hadmits.mp hp)⟩
  | error cause =>
    refine ⟨fun _ => Classical.not_not.mp fun h => ?_, fun _ => ⟨cause, rfl⟩⟩
    cases hregister.symm.trans (register_eq_ok.mpr ⟨hadmits.mpr h, rfl⟩)

/-! ## Toggling a pair -/

theorem toggle_eq_ok (hr : r.Bijective) :
    r.toggle key = .ok (q, r') ↔
      ∃ p, r.find? key = some p ∧ q = p.toggled ∧
        r' = { r with pairs := r.pairs.insert p.denom p.toggled } := by
  unfold toggle get
  cases hfind : r.find? key with
  | none => exact ⟨nofun, nofun⟩
  | some p =>
    have hp : r.pairs.get? p.denom = some p := hr.of_find? hfind
    dsimp only [bind, Except.bind]
    rw [hp]
    constructor
    · intro h
      cases h
      exact ⟨p, rfl, rfl, rfl⟩
    · rintro ⟨_, ⟨⟩, rfl, rfl⟩
      rfl

theorem lookup_toggled (r : Registry) (p : TokenPair) (d : Denom) :
    ({ r with pairs := r.pairs.insert p.denom p.toggled } : Registry).lookup d =
      if d = p.denom then some p.toggled else r.lookup d :=
  SortedMap.get?_insert r.pairs p.denom d p.toggled

theorem Bijective.toggled (hr : r.Bijective) (hp : r.lookup p.denom = some p) :
    ({ r with pairs := r.pairs.insert p.denom p.toggled } : Registry).Bijective := by
  -- Whatever is registered now was registered before, up to its flag.
  have hcases {d : Denom} {q : TokenPair}
      (h : ({ r with pairs := r.pairs.insert p.denom p.toggled } : Registry).lookup d = some q) :
      ∃ q₀, r.lookup d = some q₀ ∧ q.denom = q₀.denom ∧ q.address = q₀.address := by
    rw [lookup_toggled] at h
    split at h
    · rename_i hd
      cases h
      exact ⟨p, hd ▸ hp, rfl, rfl⟩
    · exact ⟨q, h, rfl, rfl⟩
  refine ⟨fun h => ?_, fun h => ?_, fun h => ?_, fun h => ?_, fun {a d} h => ?_⟩
  · obtain ⟨q₀, hq₀, hdenom, -⟩ := hcases h
    exact hdenom.trans (hr.denom_eq hq₀)
  · obtain ⟨q₀, hq₀, -⟩ := hcases h
    exact hr.isValid hq₀
  · obtain ⟨q₀, hq₀, -, haddress⟩ := hcases h
    rw [haddress]
    exact hr.address_ne_zero hq₀
  · obtain ⟨q₀, hq₀, -, haddress⟩ := hcases h
    rw [haddress]
    exact hr.denoms_get? hq₀
  · obtain ⟨q, hq, ha⟩ := hr.exists_pair h
    by_cases hd : d = p.denom
    · subst hd
      cases hp.symm.trans hq
      exact ⟨p.toggled, by rw [lookup_toggled, if_pos rfl], ha⟩
    · exact ⟨q, by rwa [lookup_toggled, if_neg hd], ha⟩

/-! ## Lists of pairs -/

theorem foldlM_register_cons :
    (p :: pairs).foldlM register r = .ok r' ↔
      r.Admits p ∧ pairs.foldlM register (r.add p) = .ok r' := by
  rw [List.foldlM_cons]
  constructor
  · intro h
    cases hregister : r.register p with
    | error cause =>
      rw [hregister] at h
      cases h
    | ok r₁ =>
      obtain ⟨hp, rfl⟩ := register_eq_ok.mp hregister
      rw [hregister] at h
      exact ⟨hp, h⟩
  · rintro ⟨hp, h⟩
    rw [register_eq_ok.mpr ⟨hp, rfl⟩]
    exact h

theorem Bijective.foldlM_register (hr : r.Bijective) (h : pairs.foldlM register r = .ok r') :
    r'.Bijective := by
  induction pairs generalizing r with
  | nil =>
    cases h
    exact hr
  | cons p rest ih =>
    obtain ⟨hp, hrest⟩ := foldlM_register_cons.mp h
    exact ih (hr.add hp) hrest

theorem Bijective.ofList (h : ofList pairs = .ok r) : r.Bijective :=
  Bijective.empty.foldlM_register h

/-- Pairs are accepted if each is admitted and no two have a part in common. -/
theorem foldlM_register_isOk :
    (∃ r', pairs.foldlM register r = .ok r') ↔
      (∀ p ∈ pairs, r.Admits p) ∧
        pairs.Pairwise fun p q => p.denom ≠ q.denom ∧ p.address ≠ q.address := by
  induction pairs generalizing r with
  | nil => exact ⟨fun _ => ⟨List.forall_mem_nil _, .nil⟩, fun _ => ⟨r, rfl⟩⟩
  | cons p rest ih =>
    simp only [foldlM_register_cons, exists_and_left, ih, admits_add, List.forall_mem_cons,
      List.pairwise_cons]
    constructor
    · rintro ⟨hp, hrest, hpairwise⟩
      exact ⟨⟨hp, fun q hq => (hrest q hq).1⟩, fun q hq => (hrest q hq).2, hpairwise⟩
    · rintro ⟨⟨hp, hrest⟩, hother, hpairwise⟩
      exact ⟨hp, fun q hq => ⟨hrest q hq, hother q hq⟩, hpairwise⟩

/-- What is registered afterwards was registered before, or is in the list. -/
theorem lookup_of_foldlM_register (h : pairs.foldlM register r = .ok r') :
    r'.lookup d = some q ↔ r.lookup d = some q ∨ q ∈ pairs ∧ q.denom = d := by
  induction pairs generalizing r with
  | nil =>
    cases h
    simp
  | cons p rest ih =>
    obtain ⟨hp, hrest⟩ := foldlM_register_cons.mp h
    rw [ih hrest, lookup_add]
    by_cases hd : d = p.denom
    · subst hd
      have hfree := hp.denom_free
      grind
    · grind

theorem denoms_of_foldlM_register (h : pairs.foldlM register r = .ok r') :
    r'.denoms.get? a = some d ↔
      r.denoms.get? a = some d ∨ ∃ p ∈ pairs, p.address = a ∧ p.denom = d := by
  induction pairs generalizing r with
  | nil =>
    cases h
    simp
  | cons p rest ih =>
    obtain ⟨hp, hrest⟩ := foldlM_register_cons.mp h
    rw [ih hrest, denoms_add]
    by_cases ha : a = p.address
    · subst ha
      have hfree := hp.address_free
      grind
    · grind

theorem lookup_ofList (h : ofList pairs = .ok r) :
    r.lookup d = some p ↔ p ∈ pairs ∧ p.denom = d := by
  rw [lookup_of_foldlM_register h]
  exact or_iff_right nofun

/-- A list is accepted if its pairs are valid, and no two have a part in common. -/
theorem ofList_isOk :
    (∃ r, ofList pairs = .ok r) ↔
      (∀ p ∈ pairs, Denom.isValid p.denom = true ∧ p.address ≠ .zero) ∧
        pairs.Pairwise fun p q => p.denom ≠ q.denom ∧ p.address ≠ q.address := by
  have hadmits (p : TokenPair) :
      Admits .empty p ↔ Denom.isValid p.denom = true ∧ p.address ≠ .zero :=
    ⟨fun h => ⟨h.isValid, h.address_ne_zero⟩, fun ⟨hvalid, hzero⟩ => ⟨hvalid, hzero, rfl, rfl⟩⟩
  simp only [ofList, foldlM_register_isOk, hadmits]

/-! ## The list of a registry -/

namespace Bijective

theorem mem_toList (hr : r.Bijective) : p ∈ r.toList ↔ r.lookup p.denom = some p := by
  rw [toList, SortedMap.values, List.mem_map]
  constructor
  · rintro ⟨⟨d, q⟩, hentry, rfl⟩
    exact hr.lookup_denom (SortedMap.get?_eq_some.mpr hentry)
  · intro h
    exact ⟨(p.denom, p), SortedMap.get?_eq_some.mp h, rfl⟩

/-- The list is in the order of the denominations. -/
theorem toList_sorted (hr : r.Bijective) :
    r.toList.Pairwise fun p q => compare p.denom q.denom = .lt := by
  have hname {entry : Denom × TokenPair} (h : entry ∈ r.pairs.entries) :
      entry.2.denom = entry.1 := hr.denom_eq (SortedMap.get?_eq_some.mpr h)
  rw [toList, SortedMap.values, List.pairwise_map]
  refine r.pairs.sorted.imp_of_mem fun {x y} hx hy hlt => ?_
  rw [hname hx, hname hy]
  exact hlt

/-- No two pairs of the list have a part in common. -/
theorem toList_pairwise (hr : r.Bijective) :
    r.toList.Pairwise fun p q => p.denom ≠ q.denom ∧ p.address ≠ q.address := by
  refine hr.toList_sorted.imp_of_mem fun {p q} hp hq hlt => ?_
  have hdenom : p.denom ≠ q.denom := by
    intro h
    rw [h, Std.compare_self] at hlt
    cases hlt
  refine ⟨hdenom, fun haddress => hdenom ?_⟩
  have hindex := hr.denoms_get? (hr.mem_toList.mp hp)
  rw [haddress, hr.denoms_get? (hr.mem_toList.mp hq)] at hindex
  exact (Option.some.inj hindex).symm

/-- The list of a registry makes it up again. -/
theorem ofList_toList (hr : r.Bijective) : Registry.ofList r.toList = .ok r := by
  have hparts : ∀ p ∈ r.toList, Denom.isValid p.denom = true ∧ p.address ≠ .zero := by
    intro p hp
    have hlookup := hr.mem_toList.mp hp
    exact ⟨hr.isValid hlookup, hr.address_ne_zero hlookup⟩
  obtain ⟨r', hr'⟩ := ofList_isOk.mpr ⟨hparts, hr.toList_pairwise⟩
  have hpairs : r'.pairs = r.pairs := by
    refine SortedMap.ext_get? fun d => Option.ext fun p => ?_
    refine (lookup_ofList hr').trans ?_
    rw [hr.mem_toList]
    constructor
    · rintro ⟨h, rfl⟩
      exact h
    · intro h
      exact ⟨hr.lookup_denom h, hr.denom_eq h⟩
  have hdenoms : r'.denoms = r.denoms := by
    refine SortedMap.ext_get? fun a => Option.ext fun d => ?_
    rw [denoms_of_foldlM_register hr']
    constructor
    · rintro (h | ⟨p, hp, rfl, rfl⟩)
      · cases h
      · exact hr.denoms_get? (hr.mem_toList.mp hp)
    · intro h
      obtain ⟨p, hp, ha⟩ := hr.exists_pair h
      exact .inr ⟨p, hr.mem_toList.mpr (hr.lookup_denom hp), ha, hr.denom_eq hp⟩
  obtain ⟨pairs, denoms⟩ := r
  obtain ⟨pairs', denoms'⟩ := r'
  cases hpairs
  cases hdenoms
  exact hr'

end Bijective

/-! ## What stays of a pair -/

/-- Every pair is still registered, up to its flag. -/
def Extends (r r' : Registry) : Prop :=
  ∀ d p, r.lookup d = some p → ∃ enabled, r'.lookup d = some { p with enabled }

namespace Extends

theorem refl (r : Registry) : r.Extends r := fun _ p h => ⟨p.enabled, h⟩

theorem trans {r₁ r₂ r₃ : Registry} (h₁ : r₁.Extends r₂) (h₂ : r₂.Extends r₃) : r₁.Extends r₃ := by
  intro d p hp
  obtain ⟨enabled, h⟩ := h₁ d p hp
  obtain ⟨enabled', h'⟩ := h₂ d _ h
  exact ⟨enabled', h'⟩

theorem add (hp : r.Admits p) : r.Extends (r.add p) := by
  intro d q hq
  have hd : d ≠ p.denom := by
    rintro rfl
    cases hp.denom_free.symm.trans hq
  exact ⟨q.enabled, by rwa [lookup_add, if_neg hd]⟩

theorem toggled (hp : r.lookup p.denom = some p) :
    r.Extends { r with pairs := r.pairs.insert p.denom p.toggled } := by
  intro d q hq
  by_cases hd : d = p.denom
  · subst hd
    cases hp.symm.trans hq
    exact ⟨!p.enabled, by rw [lookup_toggled, if_pos rfl]; rfl⟩
  · exact ⟨q.enabled, by rwa [lookup_toggled, if_neg hd]⟩

end Extends

/-- A pair more leaves both views inverse to each other, and the others as they are. -/
theorem Bijective.register (hr : r.Bijective) (h : r.register p = .ok r') :
    r'.Bijective ∧ r.Extends r' := by
  obtain ⟨hp, rfl⟩ := register_eq_ok.mp h
  exact ⟨hr.add hp, .add hp⟩

theorem Bijective.toggle (hr : r.Bijective) (h : r.toggle key = .ok (q, r')) :
    r'.Bijective ∧ r.Extends r' := by
  obtain ⟨p, hfind, -, rfl⟩ := (toggle_eq_ok hr).mp h
  have hp := hr.of_find? hfind
  exact ⟨hr.toggled hp, .toggled hp⟩

end Registry

end EvmBank
