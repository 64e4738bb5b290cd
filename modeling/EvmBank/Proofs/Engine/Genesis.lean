import EvmBank.Proofs.Engine.Table
import EvmBank.Proofs.Precompile.Table

/-!
# Engines started from a first state

A first state is accepted if its pairs make up a registry with which its lists agree
(`Genesis.registry_eq_ok`), whether tokens are enabled or not. From then on pairs are only added and
toggled, and the lists stay as they are (`StartedFrom`), so they go on agreeing (`Grounded`). Hence the
table can be built at every height, and holds the listed pairs that are enabled
(`table_of_first_state`), also where tokens are enabled later.
-/

namespace EvmBank

/-! ## First states -/

namespace Genesis

theorem registry_eq_ok {genesis : Genesis} {r : Registry} :
    genesis.registry = .ok r ↔ Registry.ofList genesis.pairs = .ok r ∧ genesis.tokens.Agrees r := by
  have hbuild (r : Registry) : (∃ t, PrecompileTable.build r { genesis.tokens with enabled := true }
      Params.standardApproval = .ok t) ↔ genesis.tokens.Agrees r := by
    have henabled : { genesis.tokens with enabled := true }.enabled = true := rfl
    simp only [PrecompileTable.build_eq_ok henabled, exists_and_left, exists_eq, and_true]
    exact ⟨fun h => ⟨h.nodup, h.registered⟩, fun h => ⟨h.nodup, h.registered⟩⟩
  unfold registry
  cases hpairs : Registry.ofList genesis.pairs with
  | error cause => exact ⟨nofun, nofun⟩
  | ok built =>
    cases hrepeated : genesis.tokens.firstDuplicate with
    | some a =>
      refine ⟨nofun, fun h => ?_⟩
      have hnone := TokenListing.firstRepeated_eq_none.mpr ⟨fun _ _ => List.not_mem_nil, h.2.nodup⟩
      cases hrepeated.symm.trans hnone
    | none =>
      cases htable : PrecompileTable.build built { genesis.tokens with enabled := true }
          Params.standardApproval with
      | error cause =>
        constructor
        · intro h
          change (PrecompileTable.build built _ _ >>= fun _ => _) = _ at h
          rw [htable] at h
          cases h
        · rintro ⟨⟨⟩, hagrees⟩
          obtain ⟨t, ht⟩ := (hbuild _).mpr hagrees
          cases htable.symm.trans ht
      | ok t =>
        change (PrecompileTable.build built _ _ >>= fun _ => _) = _ ↔ _
        rw [htable]
        constructor
        · rintro ⟨⟩
          exact ⟨rfl, (hbuild _).mp ⟨t, htable⟩⟩
        · rintro ⟨⟨⟩, -⟩
          rfl

end Genesis

namespace Engine

/-! ## What stays of a first state -/

/-- An engine that was started from a first state and then used. Parameters that are accepted keep both
lists of tokens; all else in them may change. -/
inductive StartedFrom (genesis : Genesis) : Engine → Prop
  | ofGenesis {ledger : Ledger} {headers : HeaderStore} {validators : ValidatorSet}
      {params : Params} {e : Engine} :
      Engine.ofGenesis ledger headers validators params genesis = .ok e → StartedFrom genesis e
  | updateParams {e : Engine} (params : Params) :
      (params.validate = .ok () → params.tokens.native = e.params.tokens.native ∧
        params.tokens.dynamic = e.params.tokens.dynamic) →
      StartedFrom genesis e → StartedFrom genesis (e.updateParams params).2
  | register {e : Engine} (pair : TokenPair) :
      StartedFrom genesis e → StartedFrom genesis (e.register pair).2
  | toggle {e : Engine} (key : String) :
      StartedFrom genesis e → StartedFrom genesis (e.toggle key).2
  | setProposer {e : Engine} (proposer : Bytes) :
      StartedFrom genesis e → StartedFrom genesis (e.setProposer proposer)
  | observed {e : Engine} : StartedFrom genesis e → StartedFrom genesis e.observed
  | tableFor {e : Engine} (height : Height) :
      StartedFrom genesis e → StartedFrom genesis (e.tableFor height).2
  | useLedger {e : Engine} (ledger : Ledger) :
      StartedFrom genesis e → StartedFrom genesis { e with ledger }
  | useHeaders {e : Engine} (headers : HeaderStore) :
      StartedFrom genesis e → StartedFrom genesis { e with headers }
  | apply {ν : Type} {e : Engine} (interpreter : Interpreter ν) (m : Message) (b : Block)
      (meter : Meter) (keep : Bool) :
      StartedFrom genesis e → StartedFrom genesis (e.apply interpreter m b meter keep).2

variable {genesis : Genesis} {e e' : Engine}

theorem StartedFrom.built (h : e.StartedFrom genesis) : e.Built := by
  induction h with
  | ofGenesis h => exact .ofGenesis h
  | updateParams params _ _ ih => exact .updateParams params ih
  | register pair _ ih => exact .register pair ih
  | toggle key _ ih => exact .toggle key ih
  | setProposer proposer _ ih => exact .setProposer proposer ih
  | observed _ ih => exact .observed ih
  | tableFor height _ ih => exact .tableFor height ih
  | useLedger ledger _ ih => exact .useLedger ledger ih
  | useHeaders headers _ ih => exact .useHeaders headers ih
  | apply interpreter m b meter keep _ ih => exact .apply interpreter m b meter keep ih

/-- The lists are those of the first state, and the registry agrees with them. -/
structure Grounded (genesis : Genesis) (e : Engine) : Prop where
  bijective : e.registry.Bijective
  agrees : genesis.tokens.Agrees e.registry
  native : e.params.tokens.native = genesis.tokens.native
  dynamic : e.params.tokens.dynamic = genesis.tokens.dynamic

namespace Grounded

theorem of_registry (h : e.Grounded genesis) (hparams : e'.params = e.params)
    (hkeeps : e'.registry.Bijective ∧ e.registry.Extends e'.registry) : e'.Grounded genesis where
  bijective := hkeeps.1
  agrees := h.agrees.mono h.bijective hkeeps.1 hkeeps.2
  native := hparams ▸ h.native
  dynamic := hparams ▸ h.dynamic

theorem register (h : e.Grounded genesis) (pair : TokenPair) :
    (e.register pair).2.Grounded genesis := by
  refine h.of_registry (register_params e pair) ?_
  unfold Engine.register
  cases hregister : e.registry.register pair with
  | error cause => exact ⟨h.bijective, .refl _⟩
  | ok registry => exact h.bijective.register hregister

theorem toggle (h : e.Grounded genesis) (key : String) : (e.toggle key).2.Grounded genesis := by
  refine h.of_registry (toggle_params e key) ?_
  unfold Engine.toggle
  cases htoggle : e.registry.toggle key with
  | error cause => exact ⟨h.bijective, .refl _⟩
  | ok toggled => exact h.bijective.toggle htoggle

theorem updateParams (h : e.Grounded genesis) {params : Params}
    (hlists : params.validate = .ok () → params.tokens.native = e.params.tokens.native ∧
      params.tokens.dynamic = e.params.tokens.dynamic) :
    (e.updateParams params).2.Grounded genesis := by
  unfold Engine.updateParams
  split
  · rename_i hvalid
    obtain ⟨hnative, hdynamic⟩ := hlists hvalid
    exact ⟨h.bijective, h.agrees, hnative.trans h.native, hdynamic.trans h.dynamic⟩
  · exact h

/-- The lists agree with the registry, whether tokens are enabled or not. -/
theorem agrees_params (h : e.Grounded genesis) : e.params.tokens.Agrees e.registry where
  nodup := by
    rw [h.native, h.dynamic]
    exact h.agrees.nodup
  registered := by
    intro a owner hmem
    rw [TokenListing.entries, h.native, h.dynamic] at hmem
    exact h.agrees.registered hmem

end Grounded

theorem StartedFrom.grounded (h : e.StartedFrom genesis) : e.Grounded genesis := by
  induction h with
  | ofGenesis h =>
    obtain ⟨registry, hregistry, hcreate⟩ := ofGenesis_eq_ok.mp h
    obtain ⟨-, rfl⟩ := create_eq_ok.mp hcreate
    obtain ⟨hpairs, hagrees⟩ := Genesis.registry_eq_ok.mp hregistry
    exact ⟨.ofList hpairs, hagrees, rfl, rfl⟩
  | updateParams params hlists _ ih => exact ih.updateParams hlists
  | register pair _ ih => exact ih.register pair
  | toggle key _ ih => exact ih.toggle key
  | tableFor height _ ih =>
    obtain ⟨kept, hsnd⟩ := tableFor_snd _ height
    rw [hsnd]
    exact ih.of_registry rfl ⟨ih.bijective, .refl _⟩
  | apply interpreter m b meter keep _ ih =>
    obtain ⟨ledger, kept, hsnd⟩ := apply_snd _ interpreter m b meter keep
    rw [hsnd]
    exact ih.of_registry rfl ⟨ih.bijective, .refl _⟩
  | setProposer _ _ ih | observed _ ih | useLedger _ _ ih | useHeaders _ _ ih =>
    exact ih.of_registry rfl ⟨ih.bijective, .refl _⟩

/-- An engine that was started from a first state has a table at every height, whatever was done with
it. With tokens enabled, the entry that is found at an address is the one for the pair registered
there, if the address is listed in the first state and the pair is enabled, with its denomination and
its owner; and there are no entries but those that are found. Without, the table is empty. Every listed
address is still registered under the owner whose list it is on. -/
theorem table_of_first_state (he : e.StartedFrom genesis) (height : Height) :
    (∃ t, (e.tableFor height).1 = .ok t ∧
      (e.params.tokens.enabled = true →
        (∀ a entry, t.entry? a = some entry ↔
          (a ∈ genesis.tokens.native ∨ a ∈ genesis.tokens.dynamic) ∧
            ∃ p, e.registry.lookupAddress a = some p ∧ p.enabled = true ∧
              entry = ⟨p.owner, ⟨a, p.denom, e.params.approvalSeconds⟩⟩) ∧
        (∀ entry, entry ∈ t.entries.toList ↔ t.entry? entry.address = some entry) ∧
        t.entries.toList.Pairwise fun d e => compare d.address e.address = .lt) ∧
      (e.params.tokens.enabled = false → t = .empty)) ∧
    (∀ a ∈ genesis.tokens.native, ∃ p, e.registry.lookupAddress a = some p ∧ p.owner = .module) ∧
    ∀ a ∈ genesis.tokens.dynamic, ∃ p, e.registry.lookupAddress a = some p ∧ p.owner = .external := by
  have hg := he.grounded
  have htable := he.built.fresh.tableFor_fst height
  refine ⟨?_, fun a ha => hg.agrees.registered ?_, fun a ha => hg.agrees.registered ?_⟩
  · cases henabled : e.params.tokens.enabled with
    | false =>
      rw [currentTable, PrecompileTable.build_of_not_enabled henabled] at htable
      exact ⟨.empty, htable, nofun, fun _ => rfl⟩
    | true =>
      rw [currentTable, (PrecompileTable.build_eq_ok henabled).mpr ⟨hg.agrees_params, rfl⟩] at htable
      have hsorted : (PrecompileTable.tableOf e.registry e.params.tokens
          e.params.approvalSeconds).Sorted := PrecompileTable.sorted_tableOf hg.agrees_params.nodup
      refine ⟨_, htable, fun _ => ⟨fun a entry => ?_, fun entry => ?_, hsorted⟩, nofun⟩
      · rw [hsorted.entry?_eq_some, PrecompileTable.mem_tableOf, PrecompileTable.offered?_eq_some,
          hg.native, hg.dynamic, List.mem_append]
        constructor
        · rintro ⟨hentry, rfl⟩
          exact hentry
        · rintro ⟨hlisted, p, hp, hp', rfl⟩
          exact ⟨⟨hlisted, p, hp, hp', rfl⟩, rfl⟩
      · rw [hsorted.entry?_eq_some]
        exact (and_iff_left rfl).symm
  · exact List.mem_append_left _ (List.mem_map_of_mem ha)
  · exact List.mem_append_right _ (List.mem_map_of_mem ha)

/-- Two tokens are listed, of which one is disabled, and tokens are not enabled. -/
def firstState : Genesis where
  tokens := ⟨false, [.ofLow 5], [.ofLow 4]⟩
  pairs := [⟨.ofLow 4, "aledger", true, .external⟩, ⟨.ofLow 5, "uother", false, .module⟩]

/-- An engine that was started from it. -/
def started : Engine :=
  { small with
    params := { small.params with tokens := firstState.tokens }
    registry := (Registry.ofList firstState.pairs).toOption.getD .empty
    proposer := [] }

/-- First the second token is enabled, and then tokens as such. -/
def enabledLater : Engine :=
  ((started.tableFor 3).2.toggle "uother").2.updateParams
    { small.params with tokens := { firstState.tokens with enabled := true } } |>.2

theorem started_startedFrom : started.StartedFrom firstState := by
  have hregistry : firstState.registry = .ok started.registry := by decide +kernel
  have hvalid : started.params.validate = .ok () := Params.validate_eq_ok.mpr (by decide +kernel)
  have hcreate : create small.ledger small.headers small.validators
      { small.params with tokens := firstState.tokens } started.registry = .ok started :=
    create_eq_ok.mpr ⟨hvalid, rfl⟩
  exact .ofGenesis (ofGenesis_eq_ok.mpr ⟨started.registry, hregistry, hcreate⟩)

theorem enabledLater_startedFrom : enabledLater.StartedFrom firstState := by
  have hlists : ((started.tableFor 3).2.toggle "uother").2.params.tokens = firstState.tokens := by
    decide +kernel
  refine .updateParams _ (fun _ => ?_) (.toggle "uother" (.tableFor 3 started_startedFrom))
  rw [hlists]
  exact ⟨rfl, rfl⟩

/-- The second token is then found in the table. -/
theorem first_state_enabled_later :
    enabledLater.StartedFrom firstState ∧ ∃ t, (enabledLater.tableFor 3).1 = .ok t ∧
      t.entry? (.ofLow 5) =
        some ⟨.module, ⟨.ofLow 5, "uother", enabledLater.params.approvalSeconds⟩⟩ := by
  obtain ⟨⟨t, htable, henabled, -⟩, -⟩ := table_of_first_state enabledLater_startedFrom 3
  have hpair : enabledLater.registry.lookupAddress (.ofLow 5) =
      some ⟨.ofLow 5, "uother", true, .module⟩ := by decide +kernel
  obtain ⟨hfound, -⟩ := henabled (by decide +kernel)
  exact ⟨enabledLater_startedFrom, t, htable,
    (hfound _ _).mpr ⟨.inl List.mem_cons_self, _, hpair, rfl, rfl⟩⟩

end Engine

end EvmBank
