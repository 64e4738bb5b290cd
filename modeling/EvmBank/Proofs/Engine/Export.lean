import EvmBank.Proofs.Document.Pairs
import EvmBank.Proofs.Document.Params
import EvmBank.Proofs.Engine.Genesis

/-!
# First states saved and loaded

A first state is read as it was written (`Genesis.ofJson?_toJson`), and its text is accepted if its
pairs make up a registry with which its lists agree (`Genesis.ofText_toText`). In an engine in use they
do, since the lists stay as they were and pairs are only added and toggled. So the state that an engine
can be started from again is loaded from its text, with the lists in their order and the registry as
it is, and starts the engine again (`genesis_reloads`).
-/

namespace EvmBank

namespace Genesis

variable {g : Genesis} {r : Registry}

theorem ofJson?_toJson (g : Genesis) : ofJson? g.toJson = some g := by
  simp [toJson, ofJson?, Json.record?_ofMembers, Json.Record.optional?, Json.Record.entry?,
    TokenListing.ofJson?_toJson, Json.list?_ofList fun p _ => TokenPair.ofJson?_toJson p]

theorem plain_toJson (g : Genesis) : g.toJson.Plain := by
  refine .object ?_
  simp only [List.forall_mem_cons]
  exact ⟨g.tokens.plain_toJson, .ofList TokenPair.plain_toJson g.pairs, List.forall_mem_nil _⟩

theorem parts_eq_ok {parts : TokenListing × Registry} :
    g.parts = .ok parts ↔ parts.1 = g.tokens ∧ g.registry = .ok parts.2 := by
  obtain ⟨tokens, r⟩ := parts
  unfold Genesis.parts
  cases g.registry with
  | error cause => simp
  | ok built => simp [eq_comm]

/-- The text of a first state is accepted, if its parts agree. -/
theorem ofText_toText {parts : TokenListing × Registry} (h : g.parts = .ok parts) :
    ofText g.toText = .ok g := by
  rw [ofText, toText, g.plain_toJson.parse?_toText, Option.bind_some, g.ofJson?_toJson]
  simp only [h]
  rfl

/-- The pairs of a registry make it up again. -/
theorem parts_ofParts {tokens : TokenListing} (hr : r.Bijective) (htokens : tokens.Agrees r) :
    (ofParts tokens r).parts = .ok (tokens, r) :=
  parts_eq_ok.mpr ⟨rfl, registry_eq_ok.mpr ⟨hr.ofList_toList, htokens⟩⟩

end Genesis

namespace Engine

variable {genesis : Genesis} {e : Engine}

/-- The first state that an engine in use can be started from again is accepted as a text. Its parts
are the lists, in their order, and the registry of the engine; saving these once more gives the same
text; and they start the engine again on what it stands on, with no table kept yet. -/
theorem genesis_reloads (he : e.StartedFrom genesis) :
    ∃ g, Genesis.ofText e.genesis.toText = .ok g ∧
      g.parts = .ok (e.params.tokens, e.registry) ∧
      (g.parts.map fun parts => (Genesis.ofParts parts.1 parts.2).toText) = .ok e.genesis.toText ∧
      ofGenesis e.ledger e.headers e.validators e.params g =
        .ok { e with kept := none, traced := false, proposer := [] } := by
  have hparts : e.genesis.parts = .ok (e.params.tokens, e.registry) :=
    Genesis.parts_ofParts he.grounded.bijective he.grounded.agrees_params
  refine ⟨e.genesis, Genesis.ofText_toText hparts, hparts, ?_, ?_⟩
  · rw [hparts]
    rfl
  · have hregistry := (Genesis.parts_eq_ok.mp hparts).2
    exact ofGenesis_eq_ok.mpr ⟨_, hregistry, create_eq_ok.mpr ⟨he.built.params_valid, rfl⟩⟩

/-- The first state of the engine whose second token was enabled later is loaded with that token
enabled, and with tokens enabled as such. -/
theorem enabled_later_reloads :
    enabledLater.StartedFrom firstState ∧
      ∃ g r, Genesis.ofText enabledLater.genesis.toText = .ok g ∧
        g.parts = .ok (⟨true, [.ofLow 5], [.ofLow 4]⟩, r) ∧
        r.lookupAddress (.ofLow 5) = some ⟨.ofLow 5, "uother", true, .module⟩ := by
  obtain ⟨g, hread, hparts, -, -⟩ := genesis_reloads enabledLater_startedFrom
  have hlists : enabledLater.params.tokens = ⟨true, [.ofLow 5], [.ofLow 4]⟩ := by decide +kernel
  rw [hlists] at hparts
  exact ⟨enabledLater_startedFrom, g, _, hread, hparts, by decide +kernel⟩

end Engine

end EvmBank
