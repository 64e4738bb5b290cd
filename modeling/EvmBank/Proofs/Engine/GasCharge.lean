import EvmBank.Proofs.Engine.Checks
import EvmBank.Proofs.Engine.Completion
import EvmBank.Proofs.Engine.Lifetime

/-!
# The gas of a message

A message is charged the gas that it used, less the refund that is granted, and no less than its
floor (`Charged.exact`); an execution reports no more gas than it was given (`Ran.gasUsed_le`), so
that no charge is lost. Under valid parameters the floor is within the limit, and the meter ends at
exactly what was charged (`gas_is_charged_exactly`).
-/

namespace EvmBank

theorem ChainRules.toNat_refundQuotient (r : ChainRules) :
    r.refundQuotient.toNat = if r.london then 5 else 2 := by
  unfold refundQuotient
  split <;> rfl

theorem ChainRules.refundQuotient_ne_zero (r : ChainRules) : r.refundQuotient ≠ 0 := by
  unfold refundQuotient
  split <;> decide

/-- A meter is set to a total between what it shows and its limit. -/
theorem Meter.reconcile_eq_ok {m m' : Meter} {total : Gas} : m.reconcile total = .ok m' ↔
    m.consumed ≤ total ∧ total ≤ m.limit ∧ m' = { m with consumed := total } := by
  unfold reconcile
  split
  · rename_i hback
    exact ⟨nofun, fun h => absurd h.1 (Nat.not_le_of_lt hback)⟩
  · rename_i hforth
    split
    · rename_i hover
      exact ⟨nofun, fun h => absurd h.2.1 (Nat.not_le_of_lt hover)⟩
    · rename_i hlimit
      constructor
      · rintro ⟨⟩
        exact ⟨Nat.le_of_not_lt hforth, Nat.le_of_not_lt hlimit, rfl⟩
      · rintro ⟨-, -, rfl⟩
        rfl

namespace Transition

variable {ν : Type} {interpreter : Interpreter ν} {h : Host} {c : ExecutionConfig} {m : Message}
  {price : Amount} {available intrinsic : Gas} {result : ExecutionResult} {l l' : Ledger}
  {meter meter' : Meter} {s : Stages}

theorem Ran.eq_report (hr : Ran interpreter h c m available l result l') :
    result = report interpreter h c m available l := by
  unfold report
  cases hr with
  | denied hdenied => rw [if_neg (by simp [hdenied])]
  | closed hallowed hrun _ _ => rw [if_pos hallowed, hrun]

theorem Ran.gasUsed_le (hr : Ran interpreter h c m available l result l') :
    result.gasUsed ≤ available := by
  cases hr with
  | denied _ => exact Nat.zero_le _
  | closed _ _ hgas _ => exact hgas

theorem Charged.exact {tally : GasTally} (hc : Charged c m intrinsic result tally)
    (hfit : intrinsic.toNat + result.gasUsed.toNat ≤ m.gasLimit.toNat) :
    ∃ t t' floor, (GasTally.ofLimit m.gasLimit).charge? intrinsic = some t ∧
      t.charge? result.gasUsed = some t' ∧ c.minGasMultiplier.floor? m.gasLimit = some floor ∧
      tally.limit = m.gasLimit ∧
      tally.used.toNat =
        max (intrinsic.toNat + result.gasUsed.toNat -
            min result.refund.toNat
              ((intrinsic.toNat + result.gasUsed.toNat) / c.rules.refundQuotient.toNat))
          (min floor.toNat m.gasLimit.toNat) := by
  obtain ⟨hsettled, hfloor⟩ := hc
  obtain ⟨t, t', settled, hfirst, hsecond, hrefunded, hlimit, hused⟩ :=
    GasTally.exists_settled result.refund hfit c.rules.refundQuotient_ne_zero
  rw [GasTally.charge_of_charge? hfirst, GasTally.charge_of_charge? hsecond, hrefunded] at hsettled
  cases hsettled
  refine ⟨t, t', _, hfirst, hsecond, hfloor, hlimit, ?_⟩
  rw [GasTally.used_applyFloor, hused, hlimit]

/-- What fits in the gas limit can be charged, if the least gas is a share of it. -/
theorem exists_charged (hshare : c.minGasMultiplier.IsShare)
    (hfit : intrinsic.toNat + result.gasUsed.toNat ≤ m.gasLimit.toNat) :
    ∃ tally, Charged c m intrinsic result tally := by
  obtain ⟨t, t', settled, hfirst, hsecond, hrefunded, -, -⟩ :=
    GasTally.exists_settled result.refund hfit c.rules.refundQuotient_ne_zero
  obtain ⟨floor, hfloor, -, -⟩ := hshare.floor?_eq_some m.gasLimit
  refine ⟨settled.applyFloor floor, .intro ?_ hfloor⟩
  rw [GasTally.charge_of_charge? hfirst, GasTally.charge_of_charge? hsecond, hrefunded]

/-- No message is charged more than its gas limit, whatever the parameters are. -/
theorem Charged.used_le {tally : GasTally} (hc : Charged c m intrinsic result tally)
    (hfit : intrinsic.toNat + result.gasUsed.toNat ≤ m.gasLimit.toNat) :
    tally.limit = m.gasLimit ∧ tally.used ≤ m.gasLimit := by
  obtain ⟨-, -, floor, -, -, -, hlimit, hused⟩ := hc.exact hfit
  refine ⟨hlimit, Quantity.le_def.mpr ?_⟩
  rw [hused]
  exact Nat.max_le.mpr ⟨Nat.le_trans (Nat.sub_le _ _) hfit, Nat.min_le_right _ _⟩

/-- What a message has used fits in its gas limit. -/
theorem Ran.fits (hr : Ran interpreter h c m available l result l')
    (ha : m.gasLimit.sub? intrinsic = some available) :
    intrinsic.toNat + result.gasUsed.toNat ≤ m.gasLimit.toNat := by
  obtain ⟨hintrinsic, hleft⟩ := Quantity.sub?_eq_some.mp ha
  have hgas := Quantity.le_def.mp hr.gasUsed_le
  omega

theorem Completed.fits (hc : Completed interpreter h c m price intrinsic l meter s meter') :
    intrinsic.toNat + s.result.gasUsed.toNat ≤ m.gasLimit.toNat :=
  hc.ran.fits hc.available

theorem Completed.used_le (hc : Completed interpreter h c m price intrinsic l meter s meter') :
    s.tally.limit = m.gasLimit ∧ s.tally.used ≤ m.gasLimit :=
  hc.charged.used_le hc.fits

end Transition

namespace Engine

open Transition

/-! ## What is charged -/

/-- A message of an engine in use that gets a receipt is charged exactly what it used, less the
refund that is granted, and no less than its share of the limit. What it used is its intrinsic gas
and the gas that its execution reports; both charges fit in its limit, and so does the floor. The
meter ends at what was charged. -/
theorem gas_is_charged_exactly {ν : Type} {interpreter : Interpreter ν} {e : Engine} {m : Message}
    {b : Block} {meter : Meter} {keep : Bool} {receipt : Receipt} (he : e.Built)
    (h : (e.apply interpreter m b meter keep).1.result = .ok receipt) :
    ∃ c price intrinsic available bought,
      e.Admits m b meter c price intrinsic ∧ Bought c m price e.ledger.openScope bought ∧
      m.gasLimit.sub? intrinsic = some available ∧
      let rules := e.params.forks.rules b.chainId b.height
      let share := e.params.minGasMultiplier
      let result := report interpreter ⟨e.headers, b, c.precompiles⟩ c m available bought
      let used := intrinsic.toNat + result.gasUsed.toNat
      let quotient := if rules.london then 5 else 2
      intrinsicGas m.data m.accessList m.isCreation rules = .ok intrinsic ∧
        used ≤ m.gasLimit.toNat ∧
        receipt.gasUsed.toNat =
          max (m.gasLimit.toNat * share.numerator.toNat ⌈/⌉ share.denominator.toNat)
            (used - min result.refund.toNat (used / quotient)) ∧
        receipt.gasUsed ≤ m.gasLimit ∧ m.gasLimit ≤ meter.limit ∧
        (e.apply interpreter m b meter keep).1.meter = { meter with consumed := receipt.gasUsed } ∧
        (∃ t t', (GasTally.ofLimit m.gasLimit).charge? intrinsic = some t ∧
          t.charge? result.gasUsed = some t') ∧
        ∃ floor, share.floor? m.gasLimit = some floor ∧ floor ≤ m.gasLimit := by
  obtain ⟨c, price, intrinsic, s, hadmits, rfl, hc, -⟩ := apply_completed h
  obtain ⟨hrules, -, -, -, -, hshare⟩ := hadmits.of_params
  have hpasses := hadmits.passes
  have hfit := hc.fits
  have hresult := hc.ran.eq_report
  obtain ⟨t, t', floor, hfirst, hsecond, hfloor, -, hused⟩ := hc.charged.exact hfit
  obtain ⟨floor', hfloor', hceil, hle⟩ :=
    (Params.isShare_of_validate he.params_valid).floor?_eq_some m.gasLimit
  rw [hshare, hfloor'] at hfloor
  cases hfloor
  rw [Nat.min_eq_left (Quantity.le_def.mp hle), hceil, Nat.max_comm, hrules,
    ChainRules.toNat_refundQuotient] at hused
  obtain ⟨-, -, hmeter⟩ := Meter.reconcile_eq_ok.mp hc.metered
  refine ⟨c, price, intrinsic, s.available, s.bought, hadmits, hc.bought, hc.available, ?_⟩
  rw [← hresult]
  exact ⟨hrules ▸ hpasses.charged, hfit, hused, hc.used_le.2,
    Message.gasLimit_le_of_checkRules hpasses.rules, hmeter, ⟨t, t', hfirst, hsecond⟩,
    floor, hfloor', hle⟩

theorem small_built : small.Built := by
  have hvalid : small.params.validate = .ok () := Params.validate_eq_ok.mpr (by decide +kernel)
  have hcreate : create small.ledger small.headers small.validators small.params small.registry =
      .ok { small with proposer := [] } := by
    unfold create
    rw [hvalid]
    rfl
  exact .setProposer [1] (.create hcreate)

/-- Uses some gas, and asks for more of it back than is granted. -/
def refunding : Interpreter Unit := fun _ _ _ => pure (⟨3000, 6000, [], false, none, none⟩, ())

/-- Sends nothing, with gas for more than the execution takes. -/
def generous : Message := ⟨.ofLow 1, some (.ofLow 5), 0, [], 40000, .legacy 2, 0, []⟩

/-- The message used 24000 and is granted a fifth of that, but has to pay for half its limit. -/
theorem floor_is_charged :
    small.Built ∧ ∃ receipt,
      (small.apply refunding generous smallBlock ⟨100000, 7⟩ true).1.result = .ok receipt ∧
        receipt.gasUsed = 20000 ∧ receipt.gasUsed ≤ generous.gasLimit ∧
        (small.apply refunding generous smallBlock ⟨100000, 7⟩ true).1.meter =
          ⟨100000, receipt.gasUsed⟩ := by
  obtain ⟨receipt, hok, hused⟩ : ∃ receipt,
      (small.apply refunding generous smallBlock ⟨100000, 7⟩ true).1.result = .ok receipt ∧
        receipt.gasUsed = 20000 := ⟨_, rfl, by decide +kernel⟩
  obtain ⟨_, _, _, _, _, _, _, _, _, _, _, hle, _, hmeter, _⟩ :=
    gas_is_charged_exactly small_built hok
  exact ⟨small_built, receipt, hok, hused, hle, hmeter⟩

end Engine

end EvmBank
