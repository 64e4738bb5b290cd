import EvmBank.Proofs.Fallible
import EvmBank.Proofs.Precompile.Table

/-!
# What a listing comes to

A table ascends, so it is determined by its entries (`Sorted.eq_of_mem`); in which order addresses are
listed therefore makes no difference (`tableOf_perm`). Its entries are those of the listed pairs that
are enabled, and counting them counts these pairs (`count_tableOf`). So building a table, and finding
entries in it, come down to statements about the lists and the registry alone (`listing_is_exact`).
-/

namespace EvmBank

/-- Whether a pair is registered at an address, and enabled. -/
def Registry.isEnabledAt (r : Registry) (a : Address) : Bool := (r.lookupAddress a).any (·.enabled)

namespace TokenListing

variable {listing : TokenListing} {r : Registry}

theorem firstDuplicate_eq_none :
    listing.firstDuplicate = none ↔ (listing.native ++ listing.dynamic).Nodup := by
  rw [firstDuplicate, firstRepeated_eq_none]
  exact and_iff_right fun _ _ => List.not_mem_nil

theorem mem_listed {a : Address} :
    a ∈ listing.native ++ listing.dynamic ↔ ∃ owner, (a, owner) ∈ listing.entries := by
  rw [← addresses_entries, List.mem_map, Prod.exists]
  exact ⟨fun ⟨_, owner, h, ha⟩ => ⟨owner, ha ▸ h⟩, fun ⟨owner, h⟩ => ⟨a, owner, h, rfl⟩⟩

theorem Agrees.owner_eq {a : Address} {owner : OwnerKind} {p : TokenPair} (h : listing.Agrees r)
    (hmem : (a, owner) ∈ listing.entries) (hp : r.lookupAddress a = some p) : p.owner = owner := by
  obtain ⟨_, hp', howner⟩ := h.registered hmem
  cases hp.symm.trans hp'
  exact howner

/-- What agreeing with a registry asks of each of the two lists. -/
theorem agrees_iff :
    listing.Agrees r ↔ (listing.native ++ listing.dynamic).Nodup ∧
      (∀ a ∈ listing.native, ∃ p, r.lookupAddress a = some p ∧ p.owner = .module) ∧
      ∀ a ∈ listing.dynamic, ∃ p, r.lookupAddress a = some p ∧ p.owner = .external := by
  constructor
  · intro h
    refine ⟨h.nodup, fun a ha => h.registered ?_, fun a ha => h.registered ?_⟩
    · exact List.mem_append_left _ (List.mem_map_of_mem ha)
    · exact List.mem_append_right _ (List.mem_map_of_mem ha)
  · intro ⟨hnodup, hnative, hdynamic⟩
    refine ⟨hnodup, fun {a owner} hmem => ?_⟩
    simp only [entries, List.mem_append, List.mem_map, Prod.mk.injEq] at hmem
    obtain ⟨_, ha, rfl, rfl⟩ | ⟨_, ha, rfl, rfl⟩ := hmem
    · exact hnative _ ha
    · exact hdynamic _ ha

end TokenListing

namespace PrecompileTable

variable {r : Registry} {seconds : Seconds} {a : Address} {listing listing' : TokenListing}
  {t t' : PrecompileTable}

/-! ## Order -/

/-- Ascending tables with the same entries are equal. -/
theorem Sorted.eq_of_mem (ht : t.Sorted) (ht' : t'.Sorted)
    (h : ∀ e, e ∈ t.entries.toList ↔ e ∈ t'.entries.toList) : t = t' := by
  have nodup {t : PrecompileTable} (ht : t.Sorted) : t.entries.toList.Nodup := by
    refine ht.imp fun {d e} hlt heq => ?_
    rw [heq, Std.compare_self] at hlt
    cases hlt
  have hperm := (List.perm_ext_iff_of_nodup (nodup ht) (nodup ht')).mpr h
  have hlist : t.entries.toList = t'.entries.toList := by
    refine hperm.eq_of_pairwise (fun d e _ _ hlt hgt => ?_) ht ht'
    rw [Std.OrientedCmp.gt_of_lt hlt] at hgt
    cases hgt
  cases t
  cases t'
  exact congrArg PrecompileTable.mk (Array.toList_inj.mp hlist)

/-- Listing the same addresses in another order gives the same table. -/
theorem tableOf_perm (hnodup : (listing.native ++ listing.dynamic).Nodup)
    (hperm : (listing.native ++ listing.dynamic).Perm (listing'.native ++ listing'.dynamic)) :
    tableOf r listing seconds = tableOf r listing' seconds := by
  refine (sorted_tableOf hnodup).eq_of_mem (sorted_tableOf (hperm.nodup_iff.mp hnodup)) fun e => ?_
  rw [mem_tableOf, mem_tableOf, hperm.mem_iff]

/-- Nor does the order decide whether there is a table. -/
theorem build_perm (hlisted : listing.enabled = true) (hlisted' : listing'.enabled = true)
    (hnative : listing.native.Perm listing'.native)
    (hdynamic : listing.dynamic.Perm listing'.dynamic) :
    (build r listing seconds).toOption = (build r listing' seconds).toOption := by
  have hperm := hnative.append hdynamic
  have hagrees : listing.Agrees r ↔ listing'.Agrees r := by
    simp only [TokenListing.agrees_iff, hperm.nodup_iff, hnative.mem_iff, hdynamic.mem_iff]
  refine Option.ext fun t => ?_
  rw [Fallible.toOption_eq_some, Fallible.toOption_eq_some, build_eq_ok hlisted,
    build_eq_ok hlisted', hagrees]
  refine and_congr_right fun h => ?_
  rw [tableOf_perm (hagrees.mpr h).nodup hperm]

/-! ## Entries -/

/-- An entry is found where the address is listed and its pair is enabled, and it is that of the
pair. -/
theorem entry?_tableOf (hnodup : (listing.native ++ listing.dynamic).Nodup) {e : TableEntry} :
    PrecompileTable.entry? (tableOf r listing seconds) a = some e ↔
      a ∈ listing.native ++ listing.dynamic ∧ ∃ p, r.lookupAddress a = some p ∧
        p.enabled = true ∧ e = ⟨p.owner, ⟨a, p.denom, seconds⟩⟩ := by
  rw [(sorted_tableOf hnodup).entry?_eq_some, mem_tableOf, ← offered?_eq_some]
  constructor
  · intro ⟨hentry, ha⟩
    rwa [ha] at hentry
  · intro ⟨ha, he⟩
    rw [address_of_offered? he]
    exact ⟨⟨ha, he⟩, rfl⟩

/-- Of addresses that are all registered under one owner, the entries have this owner, and there are as
many as there are enabled pairs. -/
theorem countP_offered {l : List Address} {owner : OwnerKind}
    (h : ∀ a ∈ l, ∃ p, r.lookupAddress a = some p ∧ p.owner = owner) (kind : OwnerKind) :
    (l.filterMap (offered? r seconds)).countP (·.owner = kind) =
      if owner = kind then l.countP r.isEnabledAt else 0 := by
  induction l with
  | nil => simp
  | cons a rest ih =>
    obtain ⟨⟨p, hp, rfl⟩, hrest⟩ := List.forall_mem_cons.mp h
    have henabled : r.isEnabledAt a = p.enabled := by rw [Registry.isEnabledAt, hp, Option.any_some]
    have hoffered : offered? r seconds a =
        if p.enabled then some ⟨p.owner, ⟨a, p.denom, seconds⟩⟩ else none := by
      rw [offered?, hp, Option.bind_some]
    rw [List.filterMap_cons, hoffered, List.countP_cons, henabled]
    cases p.enabled with
    | false => simpa using ih hrest
    | true =>
      simp only [if_true, List.countP_cons, ih hrest, decide_eq_true_eq]
      split <;> rfl

theorem count_tableOf (h : listing.Agrees r) (kind : OwnerKind) :
    (tableOf r listing seconds).count kind = match kind with
      | .module => listing.native.countP r.isEnabledAt
      | .external => listing.dynamic.countP r.isEnabledAt := by
  obtain ⟨-, hnative, hdynamic⟩ := TokenListing.agrees_iff.mp h
  rw [count, entries_tableOf, (List.perm_insertionSort Precedes _).countP_eq, List.filterMap_append,
    List.countP_append, countP_offered hnative, countP_offered hdynamic]
  cases kind <;> simp

/-! ## Errors -/

/-- Nothing is said to be listed twice where nothing is. -/
theorem entriesFor_ne_duplicate {seen : List Address} {l : List (Address × OwnerKind)} {d : Address}
    (hseen : ∀ x ∈ l, x.1 ∉ seen) (hnodup : (l.map (·.1)).Nodup) :
    entriesFor r seconds seen l ≠ .error (.duplicatePrecompile d) := by
  induction l generalizing seen with
  | nil => rintro ⟨⟩
  | cons x rest ih =>
    obtain ⟨a, listed⟩ := x
    obtain ⟨ha, hseen⟩ := List.forall_mem_cons.mp hseen
    obtain ⟨hother, hnodup⟩ := List.nodup_cons.mp hnodup
    have hrest : ∀ x ∈ rest, x.1 ∉ a :: seen := by
      intro x hx hmem
      rcases List.mem_cons.mp hmem with heq | hmem
      · exact hother (List.mem_map.mpr ⟨x, hx, heq⟩)
      · exact hseen x hx hmem
    rw [entriesFor, if_neg fun h => ha (List.contains_iff_mem.mp h)]
    cases hentry : entryFor r seconds a listed with
    | error cause =>
      rintro ⟨⟩
      unfold entryFor at hentry
      grind
    | ok entry =>
      cases hothers : entriesFor r seconds (a :: seen) rest with
      | error cause =>
        rintro ⟨⟩
        exact ih hrest hnodup hothers
      | ok others => rintro ⟨⟩

theorem build_ne_duplicate (hnodup : (listing.native ++ listing.dynamic).Nodup) (d : Address) :
    build r listing seconds ≠ .error (.duplicatePrecompile d) := by
  rw [← listing.addresses_entries] at hnodup
  have hne : entriesFor r seconds [] listing.entries ≠ .error (.duplicatePrecompile d) :=
    entriesFor_ne_duplicate (fun _ _ => List.not_mem_nil) hnodup
  rw [build]
  cases listing.enabled with
  | false => rintro ⟨⟩
  | true =>
    cases hentries : entriesFor r seconds [] listing.entries with
    | error cause =>
      rintro ⟨⟩
      exact hne hentries
    | ok found => rintro ⟨⟩

/-! ## Tables and listings -/

/-- A table that has just the listed pairs which are enabled. -/
structure Shows (t : PrecompileTable) (r : Registry) (listing : TokenListing) (seconds : Seconds) :
    Prop where
  ascending : t.addresses.Pairwise fun a b => compare a b = .lt
  /-- What is found at an address is on the list of its owner, and has the denomination that is
  registered there. -/
  entry : ∀ a e, t.entry? a = some e ↔ (a, e.owner) ∈ listing.entries ∧
    ∃ p, r.lookupAddress a = some p ∧ p.enabled = true ∧ e.token = ⟨a, p.denom, seconds⟩
  mem : ∀ e, e ∈ t.entries.toList ↔ t.entry? e.address = some e
  lookup : ∀ a token, t.lookup a = some token ↔ a ∈ listing.native ++ listing.dynamic ∧
    ∃ p, r.lookupAddress a = some p ∧ p.enabled = true ∧ token = ⟨a, p.denom, seconds⟩
  contains : ∀ a, t.contains a = true ↔
    a ∈ listing.native ++ listing.dynamic ∧ r.isEnabledAt a = true
  native : t.count .module = listing.native.countP r.isEnabledAt
  dynamic : t.count .external = listing.dynamic.countP r.isEnabledAt

theorem shows_tableOf (h : listing.Agrees r) :
    (tableOf r listing seconds).Shows r listing seconds where
  ascending := List.pairwise_map.mpr (sorted_tableOf h.nodup)
  entry a e := by
    rw [entry?_tableOf h.nodup]
    constructor
    · rintro ⟨hlisted, p, hp, henabled, rfl⟩
      obtain ⟨owner, hmem⟩ := TokenListing.mem_listed.mp hlisted
      obtain rfl := h.owner_eq hmem hp
      exact ⟨hmem, p, hp, henabled, rfl⟩
    · rintro ⟨hmem, p, hp, henabled, htoken⟩
      refine ⟨TokenListing.mem_listed.mpr ⟨_, hmem⟩, p, hp, henabled, ?_⟩
      rw [h.owner_eq hmem hp, ← htoken]
  mem e := by
    rw [(sorted_tableOf h.nodup).entry?_eq_some]
    exact (and_iff_left rfl).symm
  lookup a token := by
    rw [PrecompileTable.lookup, Option.map_eq_some_iff]
    simp only [entry?_tableOf h.nodup]
    constructor
    · rintro ⟨_, ⟨hlisted, p, hp, henabled, rfl⟩, rfl⟩
      exact ⟨hlisted, p, hp, henabled, rfl⟩
    · rintro ⟨hlisted, p, hp, henabled, rfl⟩
      exact ⟨_, ⟨hlisted, p, hp, henabled, rfl⟩, rfl⟩
  contains a := by
    rw [PrecompileTable.contains, Option.isSome_iff_exists, Registry.isEnabledAt, Option.any_eq_true]
    simp only [entry?_tableOf h.nodup]
    constructor
    · rintro ⟨_, hlisted, p, hp, henabled, -⟩
      exact ⟨hlisted, p, hp, henabled⟩
    · rintro ⟨hlisted, p, hp, henabled⟩
      exact ⟨_, hlisted, p, hp, henabled, rfl⟩
  native := count_tableOf h .module
  dynamic := count_tableOf h .external

/-- With tokens enabled, a table can be built if and only if no address is listed twice, in one list or
in both, and every listed address is registered under the owner whose list it is on. The table then
shows the listed pairs that are enabled, and nothing else. Listing the same addresses in another order
changes neither whether there is a table nor the table; and where no duplicate is found in the lists,
building never stops at one. -/
theorem listing_is_exact (r : Registry) (listing : TokenListing) (seconds : Seconds)
    (hlisted : listing.enabled = true) :
    ((∃ t, build r listing seconds = .ok t) ↔
      (listing.native ++ listing.dynamic).Nodup ∧
        (∀ a ∈ listing.native, ∃ p, r.lookupAddress a = some p ∧ p.owner = .module) ∧
        ∀ a ∈ listing.dynamic, ∃ p, r.lookupAddress a = some p ∧ p.owner = .external) ∧
    (∀ t, build r listing seconds = .ok t → t.Shows r listing seconds) ∧
    (∀ native dynamic, listing.native.Perm native → listing.dynamic.Perm dynamic →
      (build r ⟨true, native, dynamic⟩ seconds).toOption = (build r listing seconds).toOption) ∧
    (listing.firstDuplicate = none → ∀ a, build r listing seconds ≠ .error (.duplicatePrecompile a)) := by
  refine ⟨?_, fun t ht => ?_, fun native dynamic hnative hdynamic => ?_, fun hnone => ?_⟩
  · simp only [build_eq_ok hlisted, exists_and_left, exists_eq, and_true, TokenListing.agrees_iff]
  · obtain ⟨hagrees, rfl⟩ := (build_eq_ok hlisted).mp ht
    exact shows_tableOf hagrees
  · exact Eq.symm (build_perm hlisted rfl hnative hdynamic)
  · exact build_ne_duplicate (TokenListing.firstDuplicate_eq_none.mp hnone)

/-- A native pair and two dynamic ones, of which the one with the lowest address is disabled. -/
def threePairs : Registry :=
  (Registry.ofList [⟨.ofLow 9, "aledger", true, .module⟩, ⟨.ofLow 8, "uusdx", true, .external⟩,
    ⟨.ofLow 7, "uold", false, .external⟩]).toOption.getD .empty

/-- All of them are listed, and the table has the two that are enabled, in ascending order; also where
the disabled one is listed first. -/
theorem disabled_pair_is_left_out :
    let t : PrecompileTable :=
      ⟨#[⟨.external, ⟨.ofLow 8, "uusdx", 60⟩⟩, ⟨.module, ⟨.ofLow 9, "aledger", 60⟩⟩]⟩
    build threePairs ⟨true, [.ofLow 9], [.ofLow 8, .ofLow 7]⟩ 60 = .ok t ∧
      t.contains (.ofLow 7) = false ∧ t.lookup (.ofLow 8) = some ⟨.ofLow 8, "uusdx", 60⟩ ∧
      t.count .external = 1 ∧
      build threePairs ⟨true, [.ofLow 9], [.ofLow 7, .ofLow 8]⟩ 60 = .ok t := by
  intro t
  have hbuilt : build threePairs ⟨true, [.ofLow 9], [.ofLow 8, .ofLow 7]⟩ 60 = .ok t := by
    decide +kernel
  have hpair : threePairs.lookupAddress (.ofLow 8) = some ⟨.ofLow 8, "uusdx", true, .external⟩ := by
    decide +kernel
  have hdisabled : threePairs.isEnabledAt (.ofLow 7) = false := by decide +kernel
  obtain ⟨-, hshows, hperm, -⟩ :=
    listing_is_exact threePairs ⟨true, [.ofLow 9], [.ofLow 8, .ofLow 7]⟩ 60 rfl
  have hs := hshows t hbuilt
  have hsame := hperm [.ofLow 9] [.ofLow 7, .ofLow 8] (.refl _) (.swap _ _ _)
  rw [hbuilt] at hsame
  refine ⟨hbuilt, ?_, ?_, hs.dynamic.trans (by decide +kernel), Fallible.toOption_eq_some.mp hsame⟩
  · have habsent := mt (hs.contains (.ofLow 7)).mp fun h => by simp [hdisabled] at h
    simpa using habsent
  · exact (hs.lookup _ _).mpr ⟨by simp, _, hpair, rfl, rfl⟩

end PrecompileTable

end EvmBank
