import EvmBank.Proofs.Engine.Acceptance
import EvmBank.Proofs.Gas.Intrinsic

/-!
# What is admitted

The checks in front of a message, and what they are for, stated about numbers of any size
(`Engine.Accepts`). The two come to the same (`admission_is_exact`): where an amount does not fit in its
width, the sender could not have paid it anyway, and a price that stops at the greatest amount is one
that the cap keeps down.
-/

namespace EvmBank

-- Powers are those of the core library, also beside more general ones.
attribute [local instance (high)] instPowNat

/-! ## Prices -/

namespace FeeTerms

variable {terms : FeeTerms} {baseFee : Option Amount}

/-- The price that is paid, where no sum is too great. -/
def exactPrice (terms : FeeTerms) (baseFee : Option Amount) : Nat :=
  match terms, baseFee with
  | .legacy price, _ => price.toNat
  | .dynamic feeCap tipCap, some base => min feeCap.toNat (base.toNat + tipCap.toNat)
  | .dynamic feeCap _, none => feeCap.toNat

/-- A sum that stops at the greatest amount is above any cap. -/
theorem toNat_effectivePrice (terms : FeeTerms) (baseFee : Option Amount) :
    (terms.effectivePrice baseFee).toNat = terms.exactPrice baseFee := by
  match terms, baseFee with
  | .legacy _, _ | .dynamic _ _, none => rfl
  | .dynamic feeCap tipCap, some base =>
    have hcap := feeCap.isLt
    rw [effectivePrice, exactPrice, Quantity.toNat_min, Quantity.toNat_satAdd]
    omega

/-- A price is between the base fee and the cap, if the cap is not below the base fee; and no more than
the tip goes on top. -/
theorem exactPrice_bounds {base : Amount} (hcap : base ≤ terms.cap) :
    base.toNat ≤ terms.exactPrice (some base) ∧ terms.exactPrice (some base) ≤ terms.cap.toNat ∧
      ∀ feeCap tipCap, terms = .dynamic feeCap tipCap →
        terms.exactPrice (some base) - base.toNat ≤ tipCap.toNat := by
  have hcap := Quantity.le_def.mp hcap
  cases terms with
  | legacy price => exact ⟨hcap, Nat.le_refl _, nofun⟩
  | dynamic feeCap tipCap =>
    simp only [cap] at hcap
    simp only [exactPrice, cap]
    refine ⟨by omega, by omega, ?_⟩
    rintro _ _ ⟨⟩
    omega

end FeeTerms

/-! ## Messages -/

namespace Message

variable {m : Message} {c : ExecutionConfig} {l : Ledger} {meterLimit : Gas} {price : Amount}
  {intrinsic : Gas}

/-- What the rules of a block demand of a message. -/
structure Conforms (m : Message) (rules : ChainRules) (baseFee : Option Amount) (meterLimit : Gas) :
    Prop where
  limit : m.gasLimit.toNat ≤ meterLimit.toNat
  dynamic : ∀ feeCap tipCap, m.fee = .dynamic feeCap tipCap →
    rules.london = true ∧ tipCap.toNat ≤ feeCap.toNat
  accessList : m.accessList ≠ [] → rules.berlin = true
  cap : rules.london = true → ∀ base, baseFee = some base → base.toNat ≤ m.fee.cap.toNat
  initCode : m.isCreation = true → rules.shanghai = true → m.data.length ≤ 49152

/-- The check of the tip on its own. -/
def checkTip : FeeTerms → Except ValidationError Unit
  | .dynamic feeCap tipCap => refuseIf (feeCap < tipCap) (.tipAboveFeeCap tipCap feeCap)
  | .legacy _ => .ok ()

/-- The check of the cap on its own. -/
def checkCap (cap : Amount) : (london : Bool) → (baseFee : Option Amount) → Except ValidationError Unit
  | true, some base => refuseIf (cap < base) (.feeCapBelowBaseFee cap base)
  | _, _ => .ok ()

theorem checkRules_eq (m : Message) (c : ExecutionConfig) (meterLimit : Gas) :
    m.checkRules c meterLimit = (do
      refuseIf (meterLimit < m.gasLimit) (.gasLimitExceedsMeter m.gasLimit meterLimit)
      refuseIf (m.fee.isDynamic ∧ !c.rules.london) .dynamicFeeNotSupported
      refuseIf (!m.accessList.isEmpty ∧ !c.rules.berlin) .accessListNotSupported
      checkTip m.fee
      checkCap m.fee.cap c.rules.london c.baseFee
      refuseIf (m.isCreation ∧ c.rules.shanghai ∧ maxInitCodeSize < m.data.length)
        (.initCodeTooLarge m.data.length maxInitCodeSize)) := by
  unfold checkRules
  cases m.fee <;> cases c.rules.london <;> cases c.baseFee <;> rfl

theorem refuseIf_eq_ok {bad : Prop} [Decidable bad] {cause : ValidationError} :
    refuseIf bad cause = .ok () ↔ ¬bad := by
  unfold refuseIf
  split
  · rename_i hbad
    exact ⟨nofun, fun h => absurd hbad h⟩
  · rename_i hgood
    exact ⟨fun _ => hgood, fun _ => rfl⟩

theorem check_bind_eq_ok {check next : Except ValidationError Unit} :
    (check >>= fun _ => next) = .ok () ↔ check = .ok () ∧ next = .ok () := by
  cases check with
  | error cause => exact ⟨nofun, fun h => nomatch h.1⟩
  | ok _ => exact (and_iff_right rfl).symm

theorem checkTip_eq_ok {terms : FeeTerms} : checkTip terms = .ok () ↔
    ∀ feeCap tipCap, terms = .dynamic feeCap tipCap → tipCap ≤ feeCap := by
  cases terms with
  | legacy price => exact ⟨fun _ => nofun, fun _ => rfl⟩
  | dynamic feeCap tipCap =>
    rw [checkTip, refuseIf_eq_ok]
    refine ⟨?_, fun h => Nat.not_lt_of_le (h feeCap tipCap rfl)⟩
    rintro hle _ _ ⟨⟩
    exact Nat.le_of_not_lt hle

theorem checkCap_eq_ok {cap : Amount} {london : Bool} {baseFee : Option Amount} :
    checkCap cap london baseFee = .ok () ↔
      (london = true → ∀ base, baseFee = some base → base ≤ cap) := by
  cases london with
  | false => exact ⟨fun _ => nofun, fun _ => rfl⟩
  | true =>
    cases baseFee with
    | none => exact ⟨fun _ _ => nofun, fun _ => rfl⟩
    | some base =>
      rw [checkCap, refuseIf_eq_ok]
      refine ⟨?_, fun h => Nat.not_lt_of_le (h rfl base rfl)⟩
      rintro hle - _ ⟨⟩
      exact Nat.le_of_not_lt hle

theorem checkRules_eq_ok :
    m.checkRules c meterLimit = .ok () ↔ m.Conforms c.rules c.baseFee meterLimit := by
  simp only [checkRules_eq, check_bind_eq_ok, refuseIf_eq_ok, checkTip_eq_ok, checkCap_eq_ok]
  constructor
  · rintro ⟨hlimit, hdynamic, haccess, htip, hcap, hcode⟩
    refine ⟨Nat.le_of_not_lt hlimit, fun feeCap tipCap hfee => ⟨?_, htip feeCap tipCap hfee⟩, ?_,
      hcap, ?_⟩
    · rw [hfee] at hdynamic
      simpa [FeeTerms.isDynamic] using hdynamic
    · simpa using haccess
    · intro hcreation hshanghai
      exact Nat.le_of_not_lt fun hlarge => hcode ⟨hcreation, hshanghai, hlarge⟩
  · rintro ⟨hlimit, hdynamic, haccess, hcap, hcode⟩
    refine ⟨Nat.not_lt_of_le hlimit, ?_, by simpa using haccess, fun feeCap tipCap hfee =>
      (hdynamic feeCap tipCap hfee).2, hcap, fun hlarge =>
        absurd (hcode hlarge.1 hlarge.2.1) (Nat.not_le_of_lt hlarge.2.2)⟩
    cases hfee : m.fee with
    | legacy price => exact nofun
    | dynamic feeCap tipCap => simp [(hdynamic feeCap tipCap hfee).1]

/-- The sender can pay the price and the value, whether or not the sum fits in an amount. -/
theorem exists_cost_iff {funds : Amount} :
    (∃ cost, m.cost? price = some cost ∧ cost ≤ funds) ↔
      m.gasLimit.toNat * price.toNat + m.value.toNat ≤ funds.toNat := by
  rw [Nat.mul_comm]
  constructor
  · rintro ⟨cost, hcost, hle⟩
    rw [← cost?_eq_some.mp hcost]
    exact Quantity.le_def.mp hle
  · intro hle
    have hfits := Nat.lt_of_le_of_lt hle funds.isLt
    exact ⟨⟨_, hfits⟩, cost?_eq_some.mpr rfl, Quantity.le_def.mpr hle⟩

theorem exists_intrinsic_iff {rules : ChainRules} :
    (∃ intrinsic, intrinsicGas m.data m.accessList m.isCreation rules = .ok intrinsic ∧
        intrinsic ≤ m.gasLimit) ↔
      exactIntrinsicGas m.data m.accessList m.isCreation rules ≤ m.gasLimit.toNat := by
  constructor
  · rintro ⟨intrinsic, hintrinsic, hle⟩
    rw [← intrinsicGas_eq_ok.mp hintrinsic]
    exact Quantity.le_def.mp hle
  · intro hle
    have hfits := Nat.lt_of_le_of_lt hle m.gasLimit.isLt
    exact ⟨⟨_, hfits⟩, intrinsicGas_eq_ok.mpr rfl, Quantity.le_def.mpr hle⟩

/-- The checks pass for some price and intrinsic gas, which are those of the message. -/
theorem exists_passes_iff :
    (∃ price intrinsic, m.Passes c l meterLimit price intrinsic) ↔
      m.Conforms c.rules c.baseFee meterLimit ∧ l.nonce m.sender = m.nonce ∧
        m.gasLimit.toNat * m.fee.exactPrice c.baseFee + m.value.toNat ≤
          (l.balance m.sender c.evmDenom).toNat ∧
        exactIntrinsicGas m.data m.accessList m.isCreation c.rules ≤ m.gasLimit.toNat := by
  rw [← checkRules_eq_ok, ← exists_intrinsic_iff, ← FeeTerms.toNat_effectivePrice, ← exists_cost_iff]
  constructor
  · rintro ⟨price, intrinsic, hrules, hnonce, rfl, hfunds, hcharged, haffordable⟩
    exact ⟨hrules, hnonce, hfunds, intrinsic, hcharged, haffordable⟩
  · rintro ⟨hrules, hnonce, hfunds, intrinsic, hcharged, haffordable⟩
    exact ⟨_, intrinsic, hrules, hnonce, rfl, hfunds, hcharged, haffordable⟩

end Message

/-! ## Messages to an engine -/

namespace Engine

variable {e : Engine} {m : Message} {b : Block} {meter : Meter} {c : ExecutionConfig}

/-- What a message has to satisfy, in numbers of any size. -/
structure Accepts (e : Engine) (m : Message) (b : Block) (meter : Meter) : Prop where
  conforms : m.Conforms (e.params.forks.rules b.chainId b.height) b.baseFee meter.limit
  nonce : e.ledger.nonce m.sender = m.nonce
  funds : m.gasLimit.toNat * m.fee.exactPrice b.baseFee + m.value.toNat ≤
    (e.ledger.balance m.sender e.params.evmDenom).toNat
  intrinsic : exactIntrinsicGas m.data m.accessList m.isCreation
    (e.params.forks.rules b.chainId b.height) ≤ m.gasLimit.toNat

/-- Where the table and the configuration of a block can be built, the checks in front of a message pass
exactly if it is accepted in numbers of any size. The price and the intrinsic gas that they find are
exact, and the price is between base fee and cap. A message that is not accepted is refused, with the
ledger and the meter as they were, however it would have been run. -/
theorem admission_is_exact (htable : (e.tableFor b.height).1 = .ok c.precompiles)
    (hconfig : ExecutionConfig.build e.params b e.proposer e.validators c.precompiles e.traced = .ok c) :
    let rules := e.params.forks.rules b.chainId b.height
    ((∃ price intrinsic, m.precheck c e.ledger meter.limit = .ok (price, intrinsic)) ↔
        e.Accepts m b meter) ∧
      (∀ price intrinsic, m.precheck c e.ledger meter.limit = .ok (price, intrinsic) →
        price.toNat = m.fee.exactPrice b.baseFee ∧
          intrinsic.toNat = exactIntrinsicGas m.data m.accessList m.isCreation rules ∧
          (rules.london = true → ∀ base, b.baseFee = some base →
            base ≤ price ∧ price ≤ m.fee.cap ∧
              ∀ feeCap tipCap, m.fee = .dynamic feeCap tipCap →
                price.toNat - base.toNat ≤ tipCap.toNat)) ∧
      (¬e.Accepts m b meter → ∃ cause : TransitionError, cause.IsEarly ∧
        ∀ {ν : Type} (interpreter : Interpreter ν) (keep : Bool),
          let applied := e.apply interpreter m b meter keep
          applied.1.result = .error (.rejected cause) ∧ applied.1.meter = meter ∧
            applied.2.ledger = e.ledger) := by
  intro rules
  obtain ⟨coinbase, hparams⟩ := ExecutionConfig.build_eq_ok hconfig
  have hrules : c.rules = rules := by rw [hparams]
  have hbase : c.baseFee = b.baseFee := by rw [hparams]
  have hdenom : c.evmDenom = e.params.evmDenom := by rw [hparams]
  have haccepts : (∃ price intrinsic, m.precheck c e.ledger meter.limit = .ok (price, intrinsic)) ↔
      e.Accepts m b meter := by
    simp only [Message.precheck_eq_ok]
    rw [Message.exists_passes_iff, hrules, hbase, hdenom]
    constructor
    · rintro ⟨hconforms, hnonce, hfunds, hintrinsic⟩
      exact ⟨hconforms, hnonce, hfunds, hintrinsic⟩
    · exact fun h => ⟨h.conforms, h.nonce, h.funds, h.intrinsic⟩
  refine ⟨haccepts, fun price intrinsic hcheck => ?_, fun hnot => ?_⟩
  · have hpasses := Message.precheck_eq_ok.mp hcheck
    have hprice : price.toNat = m.fee.exactPrice b.baseFee := by
      rw [hpasses.effective, FeeTerms.toNat_effectivePrice, hbase]
    have hintrinsic := intrinsicGas_eq_ok.mp hpasses.charged
    rw [hrules] at hintrinsic
    refine ⟨hprice, hintrinsic, fun hlondon base hsome => ?_⟩
    have hconforms := (haccepts.mp ⟨price, intrinsic, hcheck⟩).conforms
    have hbounds := FeeTerms.exactPrice_bounds (hconforms.cap hlondon base hsome)
    rw [← hsome, ← hprice] at hbounds
    exact hbounds
  · cases hcheck : m.precheck c e.ledger meter.limit with
    | ok found => exact absurd (haccepts.mp ⟨found.1, found.2, hcheck⟩) hnot
    | error cause =>
      refine ⟨cause, isEarly_of_precheck hcheck, fun interpreter keep => ?_⟩
      obtain ⟨kept, hsnd⟩ := tableFor_snd e b.height
      rw [apply_of_config htable hconfig interpreter keep, hcheck, hsnd]
      exact ⟨rfl, rfl, rfl⟩

/-- A block with a base fee. -/
def chargingBlock : Block := { smallBlock with baseFee := some 3 }

/-- A message with a tip that its cap leaves room for. -/
def tipping : Message := { generous with fee := .dynamic 5 1 }

/-- The tip goes on top of the base fee. -/
theorem tipping_is_accepted :
    let c : ExecutionConfig := { smallConfig with baseFee := some 3 }
    ((small.tableFor chargingBlock.height).1 = .ok c.precompiles ∧
        ExecutionConfig.build small.params chargingBlock small.proposer small.validators c.precompiles
          small.traced = .ok c) ∧
      small.Accepts tipping chargingBlock (.ofLimit 100000) ∧
      tipping.fee.exactPrice chargingBlock.baseFee = 4 := by
  intro c
  have htable : (small.tableFor chargingBlock.height).1 = .ok c.precompiles := rfl
  have hconfig : ExecutionConfig.build small.params chargingBlock small.proposer small.validators
      c.precompiles small.traced = .ok c := rfl
  have hcheck : tipping.precheck c small.ledger (Meter.ofLimit 100000).limit = .ok (4, 21000) := by
    decide +kernel
  have haccepts : small.Accepts tipping chargingBlock (.ofLimit 100000) :=
    (admission_is_exact htable hconfig).1.mp ⟨4, 21000, hcheck⟩
  have hprice := ((admission_is_exact htable hconfig).2.1 4 21000 hcheck).1
  exact ⟨⟨htable, hconfig⟩, haccepts, hprice.symm⟩

end Engine

end EvmBank
