import EvmBank.Proofs.Address.Creation
import EvmBank.Proofs.Engine.Metering
import EvmBank.Proofs.Token.Bounds

/-!
# The one fault of a message

A message stops the program in one way only: when its meter is to be set to what it is charged, and
shows more already (`fault_iff`). What is charged is a closed form of the gas that was used
(`Reconciles`). No other fault, and no error of the accounts of gas, is in reach of an engine in use,
whatever interpreter it has; and neither is a breach of the token calls and contract addresses that its
own interpreter comes to (`meter_backwards_is_the_only_fault`).
-/

namespace EvmBank.Engine

open Transition

variable {ν : Type} {e : Engine} {interpreter : Interpreter ν} {m : Message} {b : Block}
  {meter : Meter} {keep : Bool} {c : ExecutionConfig} {price : Amount} {intrinsic : Gas}
  {executed : Ledger} {tally : GasTally}

/-! ## What is charged -/

/-- A message comes to the point where its meter is to be set to `charge`: its gas was bought, it was
executed or denied, and it is charged what it used, less the refund that is granted, and no less than
its share of the limit. -/
def Reconciles (interpreter : Interpreter ν) (e : Engine) (m : Message) (b : Block) (meter : Meter)
    (charge : Gas) : Prop :=
  ∃ c price intrinsic available bought result executed,
    e.Admits m b meter c price intrinsic ∧ Bought c m price e.ledger.openScope bought ∧
    m.gasLimit.sub? intrinsic = some available ∧
    Ran interpreter ⟨e.headers, b, c.precompiles⟩ c m available bought result executed ∧
    let rules := e.params.forks.rules b.chainId b.height
    let share := e.params.minGasMultiplier
    let used := intrinsic.toNat + result.gasUsed.toNat
    let quotient := if rules.london then 5 else 2
    charge.toNat =
      max (m.gasLimit.toNat * share.numerator.toNat ⌈/⌉ share.denominator.toNat)
        (used - min result.refund.toNat (used / quotient))

/-- Under valid parameters, what a message is charged is a closed form. -/
theorem Admits.toNat_used {result : ExecutionResult} (he : e.Built)
    (ha : e.Admits m b meter c price intrinsic) (hc : Charged c m intrinsic result tally)
    (hfit : intrinsic.toNat + result.gasUsed.toNat ≤ m.gasLimit.toNat) :
    let used := intrinsic.toNat + result.gasUsed.toNat
    tally.used.toNat =
      max (m.gasLimit.toNat * e.params.minGasMultiplier.numerator.toNat ⌈/⌉
          e.params.minGasMultiplier.denominator.toNat)
        (used - min result.refund.toNat
          (used / if (e.params.forks.rules b.chainId b.height).london then 5 else 2)) := by
  obtain ⟨hrules, -, -, -, -, hshare⟩ := ha.of_params
  obtain ⟨-, -, floor, -, -, hfloor, -, hused⟩ := hc.exact hfit
  obtain ⟨floor', hfloor', hceil, hle⟩ :=
    (Params.isShare_of_validate he.params_valid).floor?_eq_some m.gasLimit
  rw [hshare, hfloor'] at hfloor
  cases hfloor
  rwa [Nat.min_eq_left (Quantity.le_def.mp hle), hceil, Nat.max_comm, hrules,
    ChainRules.toNat_refundQuotient] at hused

/-- In an engine in use, all that reaches the point where it is to be charged is measured. -/
theorem reconciles_iff (he : e.Built) {charge : Gas} :
    Reconciles interpreter e m b meter charge ↔
      ∃ c price executed tally, Measures interpreter e m b meter c price executed tally ∧
        tally.used = charge := by
  constructor
  · rintro ⟨c, price, intrinsic, available, bought, result, executed, ha, hb, havailable, hran, hcharge⟩
    obtain ⟨-, -, -, -, -, hmultiplier⟩ := ha.of_params
    have hshare : c.minGasMultiplier.IsShare :=
      hmultiplier ▸ Params.isShare_of_validate he.params_valid
    have hfit := hran.fits havailable
    obtain ⟨tally, hcharged⟩ := exists_charged hshare hfit
    have hused := ha.toNat_used he hcharged hfit
    exact ⟨c, price, executed, tally, ⟨intrinsic, ha, .intro hb havailable hran hcharged⟩,
      Quantity.toNat_inj.mp (hused.trans hcharge.symm)⟩
  · rintro ⟨c, price, executed, tally, ⟨intrinsic, ha, hm⟩, rfl⟩
    obtain ⟨hb, havailable, hran, hcharged⟩ := hm
    exact ⟨c, price, intrinsic, _, _, _, executed, ha, hb, havailable, hran,
      ha.toNat_used he hcharged (hran.fits havailable)⟩

/-! ## Faults -/

theorem Halts.fault_eq {fault : Fault} {meter' : Meter}
    (hh : Halts interpreter e m b meter (.fault fault) meter') :
    ∃ c price executed tally, Measures interpreter e m b meter c price executed tally ∧
      tally.used < meter.consumed ∧ fault = .meterBackwards meter.consumed tally.used := by
  cases hh with
  | stopped ha hs =>
    cases hs with
    | backwards hm hback => exact ⟨_, _, _, _, ⟨_, ha, hm⟩, hback, rfl⟩

/-- A message that got a receipt was measured, and its meter did not show more. -/
theorem exists_measures {receipt : Receipt}
    (h : (e.apply interpreter m b meter keep).1.result = .ok receipt) :
    ∃ c price executed tally, Measures interpreter e m b meter c price executed tally ∧
      meter.consumed ≤ tally.used := by
  obtain ⟨c, price, intrinsic, s, ha, -, hc, -⟩ := apply_completed h
  exact ⟨c, price, s.executed, s.tally, ⟨intrinsic, ha, hc.measured⟩,
    (Meter.reconcile_eq_ok.mp hc.metered).1⟩

theorem Measures.unique {c' : ExecutionConfig} {price' : Amount} {executed' : Ledger}
    {tally' : GasTally} (hm : Measures interpreter e m b meter c price executed tally)
    (hm' : Measures interpreter e m b meter c' price' executed' tally') :
    executed = executed' ∧ tally = tally' := by
  obtain ⟨intrinsic, ha, hmeasured⟩ := hm
  obtain ⟨intrinsic', ha', hmeasured'⟩ := hm'
  obtain ⟨rfl, rfl, rfl⟩ := ha.unique ha'
  exact hmeasured.unique hmeasured'

/-- A fault is a meter that shows more than the message is charged, and comes about wherever it does. -/
theorem fault_iff {fault : Fault} :
    (e.apply interpreter m b meter keep).1.result = .error (.fault fault) ↔
      ∃ c price executed tally, Measures interpreter e m b meter c price executed tally ∧
        tally.used < meter.consumed ∧ fault = .meterBackwards meter.consumed tally.used := by
  constructor
  · exact fun h => (apply_halts h).fault_eq
  · rintro ⟨c, price, executed, tally, hm, hback, rfl⟩
    cases hresult : (e.apply interpreter m b meter keep).1.result with
    | ok receipt =>
      obtain ⟨_, _, _, _, hm', hforth⟩ := exists_measures hresult
      obtain ⟨rfl, rfl⟩ := hm.unique hm'
      exact absurd hback (Nat.not_lt_of_le hforth)
    | error stop =>
      rcases (apply_halts hresult).of_measures hm with ⟨-, rfl⟩ | ⟨hforth, -⟩
      · rfl
      · exact absurd hback (Nat.not_lt_of_le hforth)

/-- In an engine in use, the accounts of gas refuse no message. -/
theorem Halts.cause_ne {cause : TransitionError} {meter' : Meter} (he : e.Built)
    (hh : Halts interpreter e m b meter (.rejected cause) meter') :
    (∀ leftover limit, cause ≠ .refundExceedsGasLimit leftover limit) ∧
      ∀ limit, cause ≠ .minimumGasOverflow limit := by
  cases hh with
  | refused hearly =>
    refine ⟨?_, ?_⟩
    · rintro leftover limit rfl
      exact hearly
    · rintro limit rfl
      exact hearly
  | unclosed => exact ⟨nofun, nofun⟩
  | stopped ha hs =>
    cases hs with
    | unbought | unpaid => exact ⟨nofun, nofun⟩
    | unexecuted _ _ _ hcause =>
      refine ⟨?_, ?_⟩
      · rintro leftover limit rfl
        exact hcause
      · rintro limit rfl
        exact hcause
    | unlimited hnone =>
      obtain ⟨-, -, -, -, -, hmultiplier⟩ := ha.of_params
      obtain ⟨floor, hfloor, -, -⟩ :=
        (Params.isShare_of_validate he.params_valid).floor?_eq_some m.gasLimit
      rw [hmultiplier, hfloor] at hnone
      cases hnone

/-- An engine in use stops the program exactly when a message comes to be charged less than its meter
shows: no other account of gas goes wrong, and a meter that shows no charges never stops it. The calls
of tokens and the addresses of contracts that its interpreter comes to stay in their bounds. -/
theorem meter_backwards_is_the_only_fault (he : e.Built) :
    (∀ fault, (e.apply interpreter m b meter keep).1.result = .error (.fault fault) ↔
      ∃ charge, Reconciles interpreter e m b meter charge ∧ charge < meter.consumed ∧
        fault = .meterBackwards meter.consumed charge) ∧
      (meter.consumed = 0 →
        ∀ fault, (e.apply interpreter m b meter keep).1.result ≠ .error (.fault fault)) ∧
      (∀ cause, (e.apply interpreter m b meter keep).1.result = .error (.rejected cause) →
        (∀ leftover limit, cause ≠ .refundExceedsGasLimit leftover limit) ∧
          ∀ limit, cause ≠ .minimumGasOverflow limit) ∧
      (∀ (t : PrecompileTable) (a : Address) (call : PrecompileCall) (l : Ledger),
        t.checkedDispatch a call l = .ok (t.dispatch a call l)) ∧
      ∀ (sender : Address) (nonce : Nonce),
        Address.checkedOfCreation sender nonce = .ok (.ofCreation sender nonce) := by
  have hfault : ∀ fault, (e.apply interpreter m b meter keep).1.result = .error (.fault fault) ↔
      ∃ charge, Reconciles interpreter e m b meter charge ∧ charge < meter.consumed ∧
        fault = .meterBackwards meter.consumed charge := by
    intro fault
    simp only [fault_iff, reconciles_iff he]
    constructor
    · rintro ⟨c, price, executed, tally, hm, hback, rfl⟩
      exact ⟨tally.used, ⟨c, price, executed, tally, hm, rfl⟩, hback, rfl⟩
    · rintro ⟨_, ⟨c, price, executed, tally, hm, rfl⟩, hback, rfl⟩
      exact ⟨c, price, executed, tally, hm, hback, rfl⟩
  refine ⟨hfault, fun hnothing fault h => ?_, fun cause h => (apply_halts h).cause_ne he,
    PrecompileTable.checkedDispatch_eq_ok, Address.checkedOfCreation_eq_ok⟩
  obtain ⟨charge, -, hback, -⟩ := (hfault fault).mp h
  rw [hnothing] at hback
  exact absurd hback (Nat.not_lt_zero _)

/-- The host has charged more than the message comes to, and the program stops. -/
theorem spent_meter_faults :
    small.Built ∧
      (small.apply Native.interpreter generous smallBlock ⟨100000, 30000⟩ true).1.result =
        .error (.fault (.meterBackwards 30000 21000)) ∧
      Reconciles Native.interpreter small generous smallBlock ⟨100000, 30000⟩ 21000 := by
  have hfault : (small.apply Native.interpreter generous smallBlock ⟨100000, 30000⟩ true).1.result =
      .error (.fault (.meterBackwards 30000 21000)) := rfl
  obtain ⟨charge, hreconciles, -, hcharge⟩ :=
    ((meter_backwards_is_the_only_fault small_built).1 _).mp hfault
  cases hcharge
  exact ⟨small_built, hfault, hreconciles⟩

end EvmBank.Engine
