import EvmBank.Proofs.Engine.Outcomes

/-!
# What a message has to satisfy

The checks in front of a message, taken together (`precheck_eq_ok`), and what they mean for the
parameters of the engine: the price that is paid, the gas that is charged before the execution, and
the coins that are there for both.
-/

namespace EvmBank

namespace Message

variable {m : Message} {c : ExecutionConfig} {l : Ledger} {meterLimit : Gas} {price : Amount}
  {intrinsic : Gas}

/-- A message has passed all checks, and will pay `price` for its gas. -/
structure Passes (m : Message) (c : ExecutionConfig) (l : Ledger) (meterLimit : Gas)
    (price : Amount) (intrinsic : Gas) : Prop where
  rules : m.checkRules c meterLimit = .ok ()
  nonce : l.nonce m.sender = m.nonce
  effective : price = m.fee.effectivePrice c.baseFee
  funds : ∃ cost, m.cost? price = some cost ∧ cost ≤ l.balance m.sender c.evmDenom
  charged : intrinsicGas m.data m.accessList m.isCreation c.rules = .ok intrinsic
  affordable : intrinsic ≤ m.gasLimit

theorem refuseIf_bind_eq_ok {α : Type} {bad : Prop} [Decidable bad] {cause : ValidationError}
    {next : Unit → Except ValidationError α} {a : α} :
    (refuseIf bad cause >>= next) = .ok a ↔ ¬bad ∧ next () = .ok a := by
  unfold refuseIf
  split
  · rename_i hbad
    exact ⟨nofun, fun h => absurd hbad h.1⟩
  · rename_i hgood
    exact ⟨fun h => ⟨hgood, h⟩, fun h => h.2⟩

theorem checkSender_eq_ok : m.checkSender c l = .ok price ↔
    l.nonce m.sender = m.nonce ∧ price = m.fee.effectivePrice c.baseFee ∧
      ∃ cost, m.cost? price = some cost ∧ cost ≤ l.balance m.sender c.evmDenom := by
  unfold checkSender
  rw [refuseIf_bind_eq_ok, Decidable.not_not]
  refine and_congr_right fun _ => ?_
  dsimp only
  cases hcost : m.cost? (m.fee.effectivePrice c.baseFee) with
  | none =>
    refine ⟨nofun, ?_⟩
    rintro ⟨rfl, cost, hsome, -⟩
    cases hcost.symm.trans hsome
  | some cost =>
    rw [refuseIf_bind_eq_ok]
    constructor
    · rintro ⟨hfunds, ⟨⟩⟩
      exact ⟨rfl, cost, hcost, Nat.le_of_not_lt hfunds⟩
    · rintro ⟨rfl, cost', hsome, hfunds⟩
      cases hcost.symm.trans hsome
      exact ⟨Nat.not_lt_of_le hfunds, rfl⟩

theorem precheck_eq_ok : m.precheck c l meterLimit = .ok (price, intrinsic) ↔
    m.Passes c l meterLimit price intrinsic := by
  unfold precheck validate
  cases hrules : m.checkRules c meterLimit with
  | error cause =>
    refine ⟨nofun, fun h => ?_⟩
    cases hrules.symm.trans h.rules
  | ok _ =>
    cases hsender : m.checkSender c l with
    | error cause =>
      refine ⟨nofun, fun h => ?_⟩
      cases hsender.symm.trans (checkSender_eq_ok.mpr ⟨h.nonce, h.effective, h.funds⟩)
    | ok price' =>
      cases hintrinsic : intrinsicGas m.data m.accessList m.isCreation c.rules with
      | error cause =>
        refine ⟨nofun, fun h => ?_⟩
        cases hintrinsic.symm.trans h.charged
      | ok intrinsic' =>
        obtain ⟨hnonce, hprice, hfunds⟩ := checkSender_eq_ok.mp hsender
        change (if m.gasLimit < intrinsic' then _ else Except.ok (price', intrinsic')) = _ ↔ _
        split
        · rename_i hgas
          refine ⟨nofun, fun h => ?_⟩
          cases hintrinsic.symm.trans h.charged
          exact absurd h.affordable (Nat.not_le_of_lt hgas)
        · rename_i hgas
          constructor
          · rintro ⟨⟩
            exact ⟨hrules, hnonce, hprice, hfunds, hintrinsic, Nat.le_of_not_lt hgas⟩
          · intro h
            cases hintrinsic.symm.trans h.charged
            rw [h.effective, hprice]

theorem gasLimit_le_of_checkRules (h : m.checkRules c meterLimit = .ok ()) :
    m.gasLimit ≤ meterLimit := by
  unfold checkRules at h
  exact Nat.le_of_not_lt (refuseIf_bind_eq_ok.mp h).1

/-- The cost of a message is exact. -/
theorem cost?_eq_some {cost : Amount} : m.cost? price = some cost ↔
    cost.toNat = price.toNat * m.gasLimit.toNat + m.value.toNat := by
  unfold cost?
  cases hfee : price.mul? m.gasLimit.widen with
  | none =>
    have hover := Quantity.ofNat?_eq_none.mp hfee
    have hcost := cost.isLt
    rw [Quantity.toNat_widen] at hover
    constructor
    · exact nofun
    · intro h
      omega
  | some fee =>
    have hexact := Quantity.mul?_eq_some.mp hfee
    rw [Quantity.toNat_widen] at hexact
    rw [Option.bind_some, Quantity.add?_eq_some, hexact]

end Message

namespace Engine.Admits

variable {e : Engine} {m : Message} {b : Block} {meter : Meter} {c : ExecutionConfig}
  {price : Amount} {intrinsic : Gas}

theorem passes (h : e.Admits m b meter c price intrinsic) :
    m.Passes c e.ledger meter.limit price intrinsic :=
  Message.precheck_eq_ok.mp h.checked

/-- A message is executed under the parameters of its engine. -/
theorem of_params (h : e.Admits m b meter c price intrinsic) :
    c.rules = e.params.forks.rules b.chainId b.height ∧ c.baseFee = b.baseFee ∧
      c.accessControl = e.params.accessControl ∧ c.evmDenom = e.params.evmDenom ∧
      c.feeCollector = e.params.feeCollector ∧ c.minGasMultiplier = e.params.minGasMultiplier := by
  obtain ⟨coinbase, hconfig⟩ := ExecutionConfig.build_eq_ok h.config
  rw [hconfig]
  exact ⟨rfl, rfl, rfl, rfl, rfl, rfl⟩

/-- What is bought for a message is its exact price. -/
theorem purchase_eq (h : e.Admits m b meter c price intrinsic) :
    (price.satMul m.gasLimit.widen).toNat = price.toNat * m.gasLimit.toNat := by
  obtain ⟨cost, hcost, -⟩ := h.passes.funds
  have hexact := Message.cost?_eq_some.mp hcost
  have hfits := cost.isLt
  rw [Quantity.toNat_satMul, Quantity.toNat_widen]
  omega

/-- The sender has what it has to pay. -/
theorem funds_le (h : e.Admits m b meter c price intrinsic) :
    (price.satMul m.gasLimit.widen).toNat + m.value.toNat ≤
      (e.ledger.balance m.sender c.evmDenom).toNat := by
  obtain ⟨cost, hcost, hfunds⟩ := h.passes.funds
  rw [h.purchase_eq, ← Message.cost?_eq_some.mp hcost]
  exact hfunds

end Engine.Admits

end EvmBank
