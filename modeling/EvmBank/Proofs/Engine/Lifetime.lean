import EvmBank.Proofs.Engine.Outcomes
import EvmBank.Proofs.Gas.Charge

/-!
# Engines in use

An engine is created, from a first state or without one, and then changed in the ways it offers
(`Built`). Parameters are checked wherever they come in, and nothing else changes them: those of an
engine in use are valid (`Built.params_valid`), and the least gas of its messages is a share of
their limit.
-/

namespace EvmBank

/-! ## Valid parameters -/

namespace Params

variable {p : Params}

theorem validate_eq_ok : p.validate = .ok () ↔ p.firstFlaw = none := by
  unfold validate
  cases p.firstFlaw with
  | none => exact ⟨fun _ => rfl, fun _ => rfl⟩
  | some flaw => exact ⟨nofun, nofun⟩

theorem isShare_of_validate (h : p.validate = .ok ()) : p.minGasMultiplier.IsShare := by
  have hflaw := validate_eq_ok.mp h
  simp only [firstFlaw] at hflaw
  split at hflaw
  · cases hflaw
  split at hflaw
  · cases hflaw
  split at hflaw
  · cases hflaw
  split at hflaw
  · cases hflaw
  rename_i hdenominator
  split at hflaw
  · cases hflaw
  rename_i hle
  refine ⟨Nat.pos_of_ne_zero fun hz => hdenominator ?_, Nat.le_of_not_lt hle⟩
  rw [Quantity.isZero, hz]
  rfl

end Params

namespace Engine

/-! ## What a message leaves of an engine -/

theorem applyChecked_snd {ν : Type} (e : Engine) (interpreter : Interpreter ν) (c : ExecutionConfig)
    (m : Message) (b : Block) (meter : Meter) (keep : Bool) (price : Amount) (intrinsic : Gas) :
    ∃ ledger, (e.applyChecked interpreter c m b meter keep price intrinsic).2 = { e with ledger } := by
  cases hrun : (Transition.apply interpreter ⟨e.headers, b, c.precompiles⟩ c m price intrinsic).run.run
      ⟨e.ledger.openScope, meter, none⟩ with
  | mk result p =>
    simp only [applyChecked, hrun]
    cases result with
    | error stop => cases stop <;> exact ⟨_, rfl⟩
    | ok receipt =>
      dsimp only
      split <;> exact ⟨_, rfl⟩

/-- Beside the ledger, a message changes no more than finding its table does. -/
theorem apply_snd_tableFor {ν : Type} (e : Engine) (interpreter : Interpreter ν) (m : Message)
    (b : Block) (meter : Meter) (keep : Bool) :
    ∃ ledger, (e.apply interpreter m b meter keep).2 = { (e.tableFor b.height).2 with ledger } := by
  rcases admits_or_refused e m b meter with ⟨c, price, intrinsic, ha⟩ | ⟨cause, -, hrefused⟩
  · rw [apply_of_admits ha]
    exact applyChecked_snd _ interpreter c m b meter keep price intrinsic
  · rw [hrefused]
    exact ⟨_, rfl⟩

/-- Applying a message changes the ledger, and which table is kept. -/
theorem apply_snd {ν : Type} (e : Engine) (interpreter : Interpreter ν) (m : Message) (b : Block)
    (meter : Meter) (keep : Bool) :
    ∃ ledger kept, (e.apply interpreter m b meter keep).2 = { e with ledger, kept } := by
  obtain ⟨ledger, hsnd⟩ := apply_snd_tableFor e interpreter m b meter keep
  obtain ⟨kept, htable⟩ := tableFor_snd e b.height
  rw [hsnd, htable]
  exact ⟨ledger, kept, rfl⟩

/-! ## Engines in use -/

/-- An engine that was created and then used. What the host does to the ledger and the headers
between messages is not restricted. -/
inductive Built : Engine → Prop
  | create {ledger : Ledger} {headers : HeaderStore} {validators : ValidatorSet} {params : Params}
      {registry : Registry} {e : Engine} :
      Engine.create ledger headers validators params registry = .ok e → Built e
  | ofGenesis {ledger : Ledger} {headers : HeaderStore} {validators : ValidatorSet}
      {params : Params} {genesis : Genesis} {e : Engine} :
      Engine.ofGenesis ledger headers validators params genesis = .ok e → Built e
  | updateParams {e : Engine} (params : Params) : Built e → Built (e.updateParams params).2
  | register {e : Engine} (pair : TokenPair) : Built e → Built (e.register pair).2
  | toggle {e : Engine} (key : String) : Built e → Built (e.toggle key).2
  | setProposer {e : Engine} (proposer : Bytes) : Built e → Built (e.setProposer proposer)
  | observed {e : Engine} : Built e → Built e.observed
  | tableFor {e : Engine} (height : Height) : Built e → Built (e.tableFor height).2
  | useLedger {e : Engine} (ledger : Ledger) : Built e → Built { e with ledger }
  | useHeaders {e : Engine} (headers : HeaderStore) : Built e → Built { e with headers }
  | apply {ν : Type} {e : Engine} (interpreter : Interpreter ν) (m : Message) (b : Block)
      (meter : Meter) (keep : Bool) : Built e → Built (e.apply interpreter m b meter keep).2

variable {e : Engine}

section
variable {ledger : Ledger} {headers : HeaderStore} {validators : ValidatorSet} {params : Params}
  {registry : Registry} {genesis : Genesis}

theorem create_eq_ok :
    create ledger headers validators params registry = .ok e ↔
      params.validate = .ok () ∧
        e = ⟨ledger, headers, validators, params, registry, none, false, []⟩ := by
  unfold create
  cases params.validate with
  | error cause => exact ⟨nofun, nofun⟩
  | ok _ =>
    constructor
    · rintro ⟨⟩
      exact ⟨rfl, rfl⟩
    · rintro ⟨-, rfl⟩
      rfl

theorem ofGenesis_eq_ok :
    ofGenesis ledger headers validators params genesis = .ok e ↔
      ∃ registry, genesis.registry = .ok registry ∧
        create ledger headers validators { params with tokens := genesis.tokens } registry = .ok e := by
  unfold ofGenesis Genesis.parts
  cases genesis.registry with
  | error cause => exact ⟨nofun, nofun⟩
  | ok registry =>
    simp only [Except.ok.injEq, exists_eq_left']
    change (create ledger headers validators { params with tokens := genesis.tokens } registry).mapError
      _ = _ ↔ _
    cases create ledger headers validators { params with tokens := genesis.tokens } registry with
    | error cause => exact ⟨nofun, nofun⟩
    | ok created => exact ⟨fun h => by cases h; rfl, fun h => by cases h; rfl⟩

theorem valid_of_create (h : create ledger headers validators params registry = .ok e) :
    e.params.validate = .ok () := by
  obtain ⟨hvalid, rfl⟩ := create_eq_ok.mp h
  exact hvalid

theorem valid_of_ofGenesis (h : ofGenesis ledger headers validators params genesis = .ok e) :
    e.params.validate = .ok () := by
  obtain ⟨_, -, hcreate⟩ := ofGenesis_eq_ok.mp h
  exact valid_of_create hcreate

end

/-- Parameters that are refused leave the old ones. -/
theorem valid_updateParams (h : e.params.validate = .ok ()) (params : Params) :
    (e.updateParams params).2.params.validate = .ok () := by
  unfold updateParams
  split
  · assumption
  · exact h

theorem register_params (e : Engine) (pair : TokenPair) :
    (e.register pair).2.params = e.params := by
  unfold register
  split <;> rfl

theorem toggle_params (e : Engine) (key : String) : (e.toggle key).2.params = e.params := by
  unfold toggle
  split <;> rfl

theorem Built.params_valid (h : e.Built) : e.params.validate = .ok () := by
  induction h with
  | create h => exact valid_of_create h
  | ofGenesis h => exact valid_of_ofGenesis h
  | updateParams params _ ih => exact valid_updateParams ih params
  | register pair _ ih => rwa [register_params]
  | toggle key _ ih => rwa [toggle_params]
  | tableFor height _ ih =>
    obtain ⟨kept, hsnd⟩ := tableFor_snd _ height
    rw [hsnd]
    exact ih
  | apply interpreter m b meter keep _ ih =>
    obtain ⟨ledger, kept, hsnd⟩ := apply_snd _ interpreter m b meter keep
    rw [hsnd]
    exact ih
  | setProposer _ _ ih | observed _ ih | useLedger _ _ ih | useHeaders _ _ ih => exact ih

end Engine

end EvmBank
