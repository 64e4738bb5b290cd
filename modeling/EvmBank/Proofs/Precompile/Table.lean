import EvmBank.Precompile.Table
import EvmBank.Proofs.Registry.Bijection
import Mathlib.Data.List.Sort

/-!
# What is in a table of precompiled contracts

A table is built if everything that is listed is listed once and registered under the owner whose list
it is on (`TokenListing.Agrees`); then it holds what the registry offers at the listed addresses
(`build_eq_ok`). Placing one entry after the other is sorting by insertion, so the addresses of a table
ascend (`sorted_tableOf`), and halving finds an entry wherever there is one (`entry?_eq_some`).
-/

namespace EvmBank

namespace TokenListing

theorem addresses_entries (listing : TokenListing) :
    listing.entries.map (·.1) = listing.native ++ listing.dynamic := by
  rw [entries, List.map_append, List.map_map, List.map_map]
  exact congr (congrArg _ (List.map_id _)) (List.map_id _)

theorem firstRepeated_eq_none {seen l : List Address} :
    firstRepeated seen l = none ↔ (∀ a ∈ l, a ∉ seen) ∧ l.Nodup := by
  induction l generalizing seen with
  | nil => exact ⟨fun _ => ⟨List.forall_mem_nil _, .nil⟩, fun _ => rfl⟩
  | cons a rest ih =>
    rw [firstRepeated]
    by_cases ha : a ∈ seen
    · rw [if_pos (List.contains_iff_mem.mpr ha)]
      exact ⟨nofun, fun h => absurd ha (h.1 a List.mem_cons_self)⟩
    · rw [if_neg fun h => ha (List.contains_iff_mem.mp h), ih, List.nodup_cons]
      grind

/-- All addresses are listed once, and registered under the owner whose list they are on. -/
structure Agrees (listing : TokenListing) (r : Registry) : Prop where
  nodup : (listing.native ++ listing.dynamic).Nodup
  registered : ∀ {a owner}, (a, owner) ∈ listing.entries →
    ∃ p, r.lookupAddress a = some p ∧ p.owner = owner

/-- Every pair that is listed stays registered under its owner. -/
theorem Agrees.mono {listing : TokenListing} {r r' : Registry} (h : listing.Agrees r)
    (hr : r.Bijective) (hr' : r'.Bijective) (hle : r.Extends r') : listing.Agrees r' := by
  refine ⟨h.nodup, fun {a owner} hmem => ?_⟩
  obtain ⟨p, hp, howner⟩ := h.registered hmem
  obtain ⟨rfl, hlookup⟩ := hr.of_lookupAddress hp
  obtain ⟨enabled, hlookup'⟩ := hle _ _ hlookup
  exact ⟨{ p with enabled }, hr'.lookupAddress_address hlookup', howner⟩

end TokenListing

namespace PrecompileTable

variable {r : Registry} {seconds : Seconds} {a : Address} {d e : TableEntry} {listed : OwnerKind}
  {listing : TokenListing} {t : PrecompileTable}

/-! ## Building -/

/-- The entry for the pair that is registered at an address, if it is enabled. -/
def offered? (r : Registry) (seconds : Seconds) (a : Address) : Option TableEntry :=
  (r.lookupAddress a).bind fun p =>
    if p.enabled then some ⟨p.owner, ⟨a, p.denom, seconds⟩⟩ else none

theorem offered?_eq_some :
    offered? r seconds a = some e ↔
      ∃ p, r.lookupAddress a = some p ∧ p.enabled = true ∧ e = ⟨p.owner, ⟨a, p.denom, seconds⟩⟩ := by
  rw [offered?, Option.bind_eq_some_iff]
  refine exists_congr fun p => and_congr_right fun _ => ?_
  by_cases henabled : p.enabled = true
  · rw [if_pos henabled, Option.some_inj, eq_comm]
    exact (and_iff_right henabled).symm
  · rw [if_neg henabled]
    exact ⟨nofun, fun h => absurd h.1 henabled⟩

theorem address_of_offered? (h : offered? r seconds a = some e) : e.address = a := by
  obtain ⟨p, -, -, rfl⟩ := offered?_eq_some.mp h
  rfl

theorem entryFor_eq_ok {found : Option TableEntry} :
    entryFor r seconds a listed = .ok found ↔
      (∃ p, r.lookupAddress a = some p ∧ p.owner = listed) ∧ found = offered? r seconds a := by
  unfold entryFor offered?
  cases hlookup : r.lookupAddress a with
  | none => exact ⟨nofun, nofun⟩
  | some p =>
    simp only [Option.some_inj, exists_eq_left', Option.bind_some]
    by_cases howner : p.owner = listed
    · subst howner
      rw [if_neg (not_not.mpr rfl), ← apply_ite Except.ok, Except.ok.injEq, eq_comm]
      exact (and_iff_right rfl).symm
    · rw [if_pos howner]
      exact ⟨nofun, fun h => absurd h.1 howner⟩

theorem entriesFor_cons {seen : List Address} {rest : List (Address × OwnerKind)}
    {found : List TableEntry} :
    entriesFor r seconds seen ((a, listed) :: rest) = .ok found ↔
      a ∉ seen ∧ ∃ entry others, entryFor r seconds a listed = .ok entry ∧
        entriesFor r seconds (a :: seen) rest = .ok others ∧ found = entry.toList ++ others := by
  rw [entriesFor]
  by_cases hseen : a ∈ seen
  · rw [if_pos (List.contains_iff_mem.mpr hseen)]
    exact ⟨nofun, fun h => absurd hseen h.1⟩
  · rw [if_neg fun h => hseen (List.contains_iff_mem.mp h)]
    cases hentry : entryFor r seconds a listed with
    | error cause => exact ⟨nofun, nofun⟩
    | ok entry =>
      cases hothers : entriesFor r seconds (a :: seen) rest with
      | error cause =>
        refine ⟨nofun, ?_⟩
        rintro ⟨-, _, _, -, ⟨⟩, -⟩
      | ok others =>
        constructor
        · rintro ⟨⟩
          exact ⟨hseen, entry, others, rfl, rfl, rfl⟩
        · rintro ⟨-, _, _, ⟨⟩, ⟨⟩, rfl⟩
          rfl

theorem entriesFor_eq_ok {seen : List Address} {l : List (Address × OwnerKind)}
    {found : List TableEntry} :
    entriesFor r seconds seen l = .ok found ↔
      ((∀ x ∈ l, x.1 ∉ seen) ∧ (l.map (·.1)).Nodup ∧
        ∀ x ∈ l, ∃ p, r.lookupAddress x.1 = some p ∧ p.owner = x.2) ∧
      found = (l.map (·.1)).filterMap (offered? r seconds) := by
  induction l generalizing seen found with
  | nil => simp [entriesFor, eq_comm]
  | cons x rest ih =>
    obtain ⟨a, listed⟩ := x
    have hfirst : (offered? r seconds a).toList ++ (rest.map (·.1)).filterMap (offered? r seconds) =
        (a :: rest.map (·.1)).filterMap (offered? r seconds) := by
      rw [List.filterMap_cons]
      cases offered? r seconds a <;> rfl
    simp only [entriesFor_cons, ih, entryFor_eq_ok, List.map_cons, List.nodup_cons, List.forall_mem_cons]
    constructor
    · rintro ⟨ha, _, _, ⟨hregistered, rfl⟩, ⟨⟨hseen, hnodup, hrest⟩, rfl⟩, rfl⟩
      refine ⟨⟨⟨ha, fun x hx hmem => hseen x hx (.tail a hmem)⟩, ⟨fun hmem => ?_, hnodup⟩,
        hregistered, hrest⟩, hfirst⟩
      obtain ⟨x, hx, rfl⟩ := List.mem_map.mp hmem
      exact hseen x hx List.mem_cons_self
    · rintro ⟨⟨⟨ha, hseen⟩, ⟨hother, hnodup⟩, hregistered, hrest⟩, rfl⟩
      refine ⟨ha, _, _, ⟨hregistered, rfl⟩, ⟨⟨fun x hx hmem => ?_, hnodup, hrest⟩, rfl⟩, hfirst.symm⟩
      rcases List.mem_cons.mp hmem with rfl | hmem
      · exact hother (List.mem_map_of_mem hx)
      · exact hseen x hx hmem

/-- What is offered at the addresses of a list, one placed after the other. -/
def tableOf (r : Registry) (listing : TokenListing) (seconds : Seconds) : PrecompileTable :=
  ⟨(((listing.native ++ listing.dynamic).filterMap (offered? r seconds)).foldr place []).toArray⟩

theorem build_eq_ok (hlisted : listing.enabled = true) :
    build r listing seconds = .ok t ↔ listing.Agrees r ∧ t = tableOf r listing seconds := by
  have hagrees : listing.Agrees r ↔ (∀ x ∈ listing.entries, x.1 ∉ []) ∧
      (listing.entries.map (·.1)).Nodup ∧
      ∀ x ∈ listing.entries, ∃ p, r.lookupAddress x.1 = some p ∧ p.owner = x.2 := by
    rw [listing.addresses_entries]
    constructor
    · intro h
      exact ⟨fun _ _ => List.not_mem_nil, h.nodup, fun _ hx => h.registered hx⟩
    · rintro ⟨-, hnodup, hregistered⟩
      exact ⟨hnodup, hregistered _⟩
  have hbuild : build r listing seconds =
      (entriesFor r seconds [] listing.entries).map fun l => ⟨(l.foldr place []).toArray⟩ := by
    rw [build, hlisted]
    cases entriesFor r seconds [] listing.entries <;> rfl
  rw [hbuild, hagrees, tableOf, ← listing.addresses_entries]
  cases hentries : entriesFor r seconds [] listing.entries with
  | error cause =>
    refine ⟨nofun, fun h => ?_⟩
    cases hentries.symm.trans (entriesFor_eq_ok.mpr ⟨h.1, rfl⟩)
  | ok found =>
    obtain ⟨hok, rfl⟩ := entriesFor_eq_ok.mp hentries
    rw [Except.map, Except.ok.injEq, eq_comm]
    exact (and_iff_right hok).symm

theorem build_of_not_enabled (hlisted : listing.enabled = false) :
    build r listing seconds = .ok empty := by
  rw [build, hlisted]
  rfl

/-! ## The order of the entries -/

/-- The addresses ascend. -/
def Sorted (t : PrecompileTable) : Prop :=
  t.entries.toList.Pairwise fun d e => compare d.address e.address = .lt

/-- The first entry does not have the greater address. -/
def Precedes (d e : TableEntry) : Prop := (compare d.address e.address).isLE = true

instance : DecidableRel Precedes := fun d e =>
  inferInstanceAs (Decidable ((compare d.address e.address).isLE = true))

theorem precedes_iff : Precedes d e ↔ compare d.address e.address ≠ .gt := Ordering.isLE_iff_ne_gt

instance : Std.Total Precedes where
  total d e := by
    unfold Precedes
    cases hcompare : compare d.address e.address with
    | lt | eq => exact .inl rfl
    | gt => exact .inr (by rw [Std.OrientedCmp.lt_of_gt hcompare]; rfl)

instance : IsTrans TableEntry Precedes where
  trans _ _ _ := Std.TransCmp.isLE_trans

/-- Placing an entry is inserting it in order. -/
theorem place_eq (e : TableEntry) (l : List TableEntry) : place e l = l.orderedInsert Precedes e := by
  induction l with
  | nil => rfl
  | cons d rest ih =>
    rw [place, List.orderedInsert_cons, ih]
    by_cases hgt : compare e.address d.address = .gt
    · rw [if_pos hgt, if_neg fun h => precedes_iff.mp h hgt]
    · rw [if_neg hgt, if_pos (precedes_iff.mpr hgt)]

theorem entries_tableOf (r : Registry) (listing : TokenListing) (seconds : Seconds) :
    (tableOf r listing seconds).entries.toList =
      ((listing.native ++ listing.dynamic).filterMap (offered? r seconds)).insertionSort Precedes := by
  rw [tableOf, List.insertionSort]
  exact congrArg (List.foldr · [] _) (funext₂ place_eq)

theorem mem_tableOf :
    e ∈ (tableOf r listing seconds).entries.toList ↔
      e.address ∈ listing.native ++ listing.dynamic ∧ offered? r seconds e.address = some e := by
  rw [entries_tableOf, List.mem_insertionSort, List.mem_filterMap]
  constructor
  · rintro ⟨a, ha, he⟩
    rw [address_of_offered? he]
    exact ⟨ha, he⟩
  · rintro ⟨ha, he⟩
    exact ⟨e.address, ha, he⟩

theorem sorted_tableOf (hnodup : (listing.native ++ listing.dynamic).Nodup) :
    (tableOf r listing seconds).Sorted := by
  have hother : ((listing.native ++ listing.dynamic).filterMap (offered? r seconds)).Pairwise
      fun d e => d.address ≠ e.address := by
    refine List.Pairwise.filterMap _ (fun a b hab d hd e he => ?_) hnodup
    rwa [address_of_offered? hd, address_of_offered? he]
  rw [Sorted, entries_tableOf]
  refine (List.pairwise_insertionSort Precedes _).imp₂ (fun {d e} hle hne => ?_)
    ((List.perm_insertionSort Precedes _).pairwise_iff Ne.symm |>.mpr hother)
  cases hcompare : compare d.address e.address with
  | lt => rfl
  | eq => exact absurd (Std.LawfulEqCmp.eq_of_compare hcompare) hne
  | gt => exact absurd hcompare (precedes_iff.mp hle)

/-! ## Finding an entry -/

theorem Sorted.compare_eq_lt (ht : t.Sorted) {i j : Nat} (hi : t.entries[i]? = some d)
    (hj : t.entries[j]? = some e) (hij : i < j) : compare d.address e.address = .lt := by
  obtain ⟨hilt, rfl⟩ := Array.getElem?_eq_some_iff.mp hi
  obtain ⟨hjlt, rfl⟩ := Array.getElem?_eq_some_iff.mp hj
  exact List.pairwise_iff_getElem.mp ht i j hilt hjlt hij

/-- Entries stand as their addresses compare. -/
theorem Sorted.lt_of_compare (ht : t.Sorted) {i j : Nat} (hi : t.entries[i]? = some d)
    (hj : t.entries[j]? = some e) (h : compare d.address e.address = .lt) : i < j := by
  rcases Nat.lt_trichotomy i j with hlt | rfl | hgt
  · exact hlt
  · cases hi.symm.trans hj
    rw [Std.compare_self] at h
    cases h
  · rw [Std.OrientedCmp.gt_of_lt (ht.compare_eq_lt hj hi hgt)] at h
    cases h

theorem Sorted.eq_of_address (ht : t.Sorted) {i j : Nat} (hi : t.entries[i]? = some d)
    (hj : t.entries[j]? = some e) (h : d.address = e.address) : d = e := by
  have hne {i j : Nat} {d e : TableEntry} (hi : t.entries[i]? = some d) (hj : t.entries[j]? = some e)
      (h : d.address = e.address) : ¬i < j := fun hlt => by
    have hcompare := ht.compare_eq_lt hi hj hlt
    rw [h, Std.compare_self] at hcompare
    cases hcompare
  obtain rfl : i = j := by
    have hle := hne hj hi h.symm
    have hge := hne hi hj h
    omega
  exact Option.some.inj (hi.symm.trans hj)

/-- Among the entries from `low` on, the one with the address is found, if there is one. -/
theorem Sorted.search_eq_some (ht : t.Sorted) {fuel low count : Nat} (hfuel : count ≤ fuel)
    (hbound : low + count ≤ t.entries.size) :
    search t.entries a fuel low count = some e ↔
      ∃ i, low ≤ i ∧ i < low + count ∧ t.entries[i]? = some e ∧ e.address = a := by
  induction fuel generalizing low count with
  | zero =>
    obtain rfl := Nat.le_zero.mp hfuel
    exact ⟨nofun, fun ⟨i, hlow, hhigh, _⟩ => by omega⟩
  | succ fuel ih =>
    rw [search]
    by_cases hcount : count = 0
    · rw [if_pos hcount]
      exact ⟨nofun, fun ⟨i, hlow, hhigh, _⟩ => by omega⟩
    rw [if_neg hcount]
    have hmiddle : low + count / 2 < t.entries.size := by omega
    obtain ⟨d, hd⟩ : ∃ d, t.entries[low + count / 2]? = some d :=
      ⟨_, Array.getElem?_eq_getElem hmiddle⟩
    simp only [hd]
    cases hcompare : compare a d.address with
    | lt =>
      simp only [ih (show count / 2 ≤ fuel by omega) (show low + count / 2 ≤ _ by omega)]
      refine exists_congr fun i => and_congr_right fun _ => ?_
      constructor
      · rintro ⟨hhigh, he⟩
        exact ⟨by omega, he⟩
      · rintro ⟨-, he, rfl⟩
        exact ⟨ht.lt_of_compare he hd hcompare, he, rfl⟩
    | eq =>
      obtain rfl := Std.LawfulEqCmp.eq_of_compare hcompare
      constructor
      · rintro ⟨⟩
        exact ⟨low + count / 2, by omega, by omega, hd, rfl⟩
      · rintro ⟨i, -, -, he, ha⟩
        exact congrArg some (ht.eq_of_address hd he ha.symm)
    | gt =>
      simp only [ih (show count - count / 2 - 1 ≤ fuel by omega)
        (show low + count / 2 + 1 + (count - count / 2 - 1) ≤ _ by omega)]
      refine exists_congr fun i => ?_
      constructor
      · rintro ⟨hlow, hhigh, he⟩
        exact ⟨by omega, by omega, he⟩
      · rintro ⟨-, hhigh, he, rfl⟩
        have hlt := ht.lt_of_compare hd he (Std.OrientedCmp.lt_of_gt hcompare)
        exact ⟨by omega, by omega, he, rfl⟩

theorem Sorted.entry?_eq_some (ht : t.Sorted) :
    t.entry? a = some e ↔ e ∈ t.entries.toList ∧ e.address = a := by
  unfold entry?
  rw [ht.search_eq_some (Nat.le_refl _) (Nat.le_of_eq (Nat.zero_add _))]
  constructor
  · rintro ⟨i, -, -, he, ha⟩
    exact ⟨Array.mem_toList_iff.mpr (Array.mem_of_getElem? he), ha⟩
  · rintro ⟨he, ha⟩
    obtain ⟨i, hi, rfl⟩ := Array.mem_iff_getElem.mp (Array.mem_toList_iff.mp he)
    exact ⟨i, Nat.zero_le i, by omega, Array.getElem?_eq_getElem hi, ha⟩

theorem Sorted.lookup_eq_none (ht : t.Sorted) : t.lookup a = none ↔ a ∉ t.addresses := by
  rw [lookup, Option.map_eq_none_iff, addresses, List.mem_map, Option.eq_none_iff_forall_ne_some]
  constructor
  · rintro hnone ⟨e, he, ha⟩
    exact hnone e (ht.entry?_eq_some.mpr ⟨he, ha⟩)
  · intro hnone e he
    exact hnone ⟨e, ht.entry?_eq_some.mp he⟩

/-- A table ascends if it was built. -/
theorem sorted_of_build (h : build r listing seconds = .ok t) : t.Sorted := by
  cases hlisted : listing.enabled with
  | false =>
    cases (build_of_not_enabled hlisted).symm.trans h
    exact .nil
  | true =>
    obtain ⟨hagrees, rfl⟩ := (build_eq_ok hlisted).mp h
    exact sorted_tableOf hagrees.nodup

end PrecompileTable

end EvmBank
