import EvmBank.Proofs.Engine.Acceptance

/-!
# The meter of a message

A message whose execution came to a result is measured: what it is to be charged is known, and its
meter is set to that (`Measured`). This is before the rest of its gas is paid back, so that a message
can still be stopped after its meter was set, and the meter is no part of what a scope undoes. Every
way to stop leaves the meter as it was but that one (`Stops`, `apply_stops`). Whatever an interpreter
does, the scope of a message can be closed once the message is measured (`Measured.depth_eq`), so that
a payment that fails is all that can go wrong (`rejected_keeps_meter`). It does go wrong where the
execution takes from the collector what it was paid (`drained_collector_leaves_charge`).
-/

namespace EvmBank

namespace Transition

open Fallible Ledger

variable {ν : Type} {interpreter : Interpreter ν} {h : Host} {c : ExecutionConfig} {m : Message}
  {price : Amount} {intrinsic available : Gas} {result : ExecutionResult} {base l l₁ l₂ : Ledger}
  {meter : Meter} {tally tally' : GasTally}

/-! ## Stages have one outcome -/

theorem Bought.unique (hb : Bought c m price l l₁) (hb' : Bought c m price l l₂) : l₁ = l₂ := by
  obtain ⟨paid, hpaid, rfl⟩ := hb.paid
  obtain ⟨paid', hpaid', rfl⟩ := hb'.paid
  cases hpaid.symm.trans hpaid'
  rfl

theorem Ran.unique {result' : ExecutionResult}
    (hr : Ran interpreter h c m available l result l₁)
    (hr' : Ran interpreter h c m available l result' l₂) : result = result' ∧ l₁ = l₂ := by
  have hresult := hr.eq_report.trans hr'.eq_report.symm
  refine ⟨hresult, ?_⟩
  subst hresult
  cases hr with
  | denied hdenied =>
    cases hr' with
    | denied => rfl
    | closed hallowed => cases hdenied.symm.trans hallowed
  | closed hallowed hrun _ hclosed =>
    cases hr' with
    | denied hdenied => cases hallowed.symm.trans hdenied
    | closed _ hrun' _ hclosed' =>
      cases hrun.symm.trans hrun'
      exact Except.ok.inj (hclosed.symm.trans hclosed')

theorem Charged.unique (hc : Charged c m intrinsic result tally)
    (hc' : Charged c m intrinsic result tally') : tally = tally' := by
  obtain ⟨hsettled, hfloor⟩ := hc
  obtain ⟨hsettled', hfloor'⟩ := hc'
  cases hsettled.symm.trans hsettled'
  cases hfloor.symm.trans hfloor'
  rfl

/-- The scope of an execution that came to a result was closed, whatever happened inside. -/
theorem Ran.depth_eq (hr : Ran interpreter h c m available l result l₁) : l₁.depth = l.depth := by
  cases hr with
  | denied => rfl
  | closed _ _ _ hclosed =>
    split at hclosed
    · exact (depth_of_close false hclosed).1
    · exact (depth_of_close true hclosed).1

/-! ## Messages that are measured -/

/-- A message was executed or denied, which led to a ledger, and what it is to be charged is known. -/
inductive Measured (interpreter : Interpreter ν) (h : Host) (c : ExecutionConfig) (m : Message)
    (price : Amount) (intrinsic : Gas) (l : Ledger) : Ledger → GasTally → Prop
  | intro {available : Gas} {bought executed : Ledger} {result : ExecutionResult}
      {tally : GasTally} :
      Bought c m price l bought → m.gasLimit.sub? intrinsic = some available →
      Ran interpreter h c m available bought result executed → Charged c m intrinsic result tally →
      Measured interpreter h c m price intrinsic l executed tally

theorem Measured.unique {executed executed' : Ledger}
    (hm : Measured interpreter h c m price intrinsic l executed tally)
    (hm' : Measured interpreter h c m price intrinsic l executed' tally') :
    executed = executed' ∧ tally = tally' := by
  obtain ⟨hbought, havailable, hran, hcharged⟩ := hm
  obtain ⟨hbought', havailable', hran', hcharged'⟩ := hm'
  cases hbought.unique hbought'
  cases havailable.symm.trans havailable'
  obtain ⟨rfl, rfl⟩ := hran.unique hran'
  exact ⟨rfl, hcharged.unique hcharged'⟩

theorem Measured.depth_eq {executed : Ledger}
    (hm : Measured interpreter h c m price intrinsic l executed tally) :
    executed.depth = l.depth := by
  obtain ⟨hbought, -, hran, -⟩ := hm
  exact hran.depth_eq.trans hbought.grows.depth_eq

theorem Measured.remaining_le {executed : Ledger}
    (hm : Measured interpreter h c m price intrinsic l executed tally) :
    tally.remaining ≤ m.gasLimit := by
  obtain ⟨-, havailable, hran, hcharged⟩ := hm
  exact hcharged.remaining_le (hran.fits havailable)

theorem Completed.measured {s : Stages} {meter' : Meter}
    (hc : Completed interpreter h c m price intrinsic l meter s meter') :
    Measured interpreter h c m price intrinsic l s.executed s.tally :=
  .intro hc.bought hc.available hc.ran hc.charged

/-! ## The ways to stop -/

/-- What was not used of the gas that was bought cannot be paid back. -/
def Unpaid (c : ExecutionConfig) (m : Message) (price : Amount) (executed : Ledger)
    (tally : GasTally) (error : LedgerError) : Prop :=
  executed.transfer c.feeCollector m.sender c.evmDenom (price.satMul tally.remaining.widen) =
    .error error

theorem Paid.not_unpaid {executed : Ledger} {error : LedgerError} (hp : Paid c m price executed)
    (hle : tally.remaining ≤ m.gasLimit) : ¬Unpaid c m price executed tally error := by
  intro hunpaid
  have hfunds := Nat.le_trans (satMul_widen_le price hle) hp.purchase
  obtain ⟨l, hpaid⟩ := Ledger.exists_transfer hp.held hfunds m.sender
  cases hunpaid.symm.trans hpaid

/-- The ways in which a message stops, with the meter and the ledger that it leaves. Only a payment
that fails leaves another meter. -/
inductive Stops (interpreter : Interpreter ν) (h : Host) (c : ExecutionConfig) (m : Message)
    (price : Amount) (intrinsic : Gas) (l : Ledger) (meter : Meter) : Stop → Meter → Ledger → Prop
  | unbought {error : LedgerError} {stopped : Ledger} : (∀ bought, ¬Bought c m price l bought) →
      Stops interpreter h c m price intrinsic l meter (.rejected (.feeSettlement error)) meter stopped
  | unexecuted {available : Gas} {bought stopped : Ledger} {cause : TransitionError} :
      Bought c m price l bought → m.gasLimit.sub? intrinsic = some available →
      (∀ result executed, ¬Ran interpreter h c m available bought result executed) →
      cause.IsOfExecution →
      Stops interpreter h c m price intrinsic l meter (.rejected cause) meter stopped
  | unlimited {stopped : Ledger} : c.minGasMultiplier.floor? m.gasLimit = none →
      Stops interpreter h c m price intrinsic l meter
        (.rejected (.minimumGasOverflow m.gasLimit)) meter stopped
  | backwards {executed : Ledger} {tally : GasTally} :
      Measured interpreter h c m price intrinsic l executed tally → tally.used < meter.consumed →
      Stops interpreter h c m price intrinsic l meter
        (.fault (.meterBackwards meter.consumed tally.used)) meter executed
  | unpaid {executed : Ledger} {tally : GasTally} {error : LedgerError} :
      Measured interpreter h c m price intrinsic l executed tally → meter.consumed ≤ tally.used →
      Unpaid c m price executed tally error →
      Stops interpreter h c m price intrinsic l meter (.rejected (.feeSettlement error))
        { meter with consumed := tally.used } executed

/-- A message that is measured stops for nothing but its meter and its refund. -/
theorem Stops.of_measured {stop : Stop} {meter' : Meter} {executed stopped : Ledger}
    (hs : Stops interpreter h c m price intrinsic l meter stop meter' stopped)
    (hm : Measured interpreter h c m price intrinsic l executed tally) :
    stopped = executed ∧
      (tally.used < meter.consumed ∧ stop = .fault (.meterBackwards meter.consumed tally.used) ∨
        meter.consumed ≤ tally.used ∧ meter' = { meter with consumed := tally.used } ∧
          ∃ error, stop = .rejected (.feeSettlement error) ∧
            Unpaid c m price executed tally error) := by
  cases hs with
  | unbought hnever =>
    obtain ⟨hbought, -, -, -⟩ := hm
    exact absurd hbought (hnever _)
  | unexecuted hbought' havailable' hnever _ =>
    obtain ⟨hbought, havailable, hran, -⟩ := hm
    cases hbought.unique hbought'
    cases havailable.symm.trans havailable'
    exact absurd hran (hnever _ _)
  | unlimited hnone =>
    obtain ⟨-, -, -, -, hfloor⟩ := hm
    cases hnone.symm.trans hfloor
  | backwards hm' hback =>
    obtain ⟨rfl, rfl⟩ := hm.unique hm'
    exact ⟨rfl, .inl ⟨hback, rfl⟩⟩
  | unpaid hm' hforth hunpaid =>
    obtain ⟨rfl, rfl⟩ := hm.unique hm'
    exact ⟨rfl, .inr ⟨hforth, rfl, _, rfl, hunpaid⟩⟩

section
variable {p : Progress ν}

/-- The meter is set to what a message is charged, unless it shows more already. -/
theorem settleGas_measures (hfit : intrinsic.toNat + result.gasUsed.toNat ≤ m.gasLimit.toNat)
    (hlimit : m.gasLimit ≤ p.meter.limit) :
    Ends (settleGas c m intrinsic result)
      (fun tally p' => Charged c m intrinsic result tally ∧ p.meter.consumed ≤ tally.used ∧
        p' = { p with meter := { p.meter with consumed := tally.used } })
      (fun stop p' => p' = p ∧
        (c.minGasMultiplier.floor? m.gasLimit = none ∧
            stop = .rejected (.minimumGasOverflow m.gasLimit) ∨
          ∃ tally, Charged c m intrinsic result tally ∧ tally.used < p.meter.consumed ∧
            stop = .fault (.meterBackwards p.meter.consumed tally.used))) p := by
  obtain ⟨t, t', settled, hfirst, hsecond, hsettled, -, -⟩ :=
    GasTally.exists_settled result.refund hfit c.rules.refundQuotient_ne_zero
  rw [← GasTally.charge_of_charge? hsecond, ← GasTally.charge_of_charge? hfirst] at hsettled
  simp only [settleGas, ends_bind, hsettled]
  cases hfloor : c.minGasMultiplier.floor? m.gasLimit with
  | none => exact ⟨rfl, .inl ⟨rfl, rfl⟩⟩
  | some floor =>
    have hcharged : Charged c m intrinsic result (settled.applyFloor floor) := .intro hsettled hfloor
    have hbelow := Nat.le_trans (hcharged.used_le hfit).2 hlimit
    simp only [orFault, ends_bind, ends_pure, ends_get]
    by_cases hback : (settled.applyFloor floor).used < p.meter.consumed
    · rw [Meter.reconcile, if_pos hback]
      exact ⟨rfl, .inr ⟨_, hcharged, hback, rfl⟩⟩
    · have hforth := Nat.le_of_not_lt hback
      rw [Meter.reconcile_eq_ok.mpr ⟨hforth, hbelow, rfl⟩]
      exact ⟨hcharged, hforth, rfl⟩

theorem apply_stops (interpreter : Interpreter ν) (h : Host) (p : Progress ν) (price : Amount)
    (hintrinsic : intrinsic ≤ m.gasLimit) (hlimit : m.gasLimit ≤ p.meter.limit) :
    Ends (apply interpreter h c m price intrinsic) (fun _ _ => True)
      (fun stop p' =>
        Stops interpreter h c m price intrinsic p.ledger p.meter stop p'.meter p'.ledger) p := by
  refine ends_bind.mpr (buyGas_ends.mono ?_ ?_)
  · rintro _ _ ⟨l₁, hb, rfl⟩
    cases ha : m.gasLimit.sub? intrinsic with
    | none => exact absurd hintrinsic (Nat.not_le_of_lt (Quantity.sub?_eq_none.mp ha))
    | some available =>
      refine ends_bind.mpr (execute_ran.mono ?_ ?_)
      · rintro result p₂ ⟨hran, hm₂⟩
        have hlimit₂ : m.gasLimit ≤ p₂.meter.limit := hm₂ ▸ hlimit
        refine ends_bind.mpr ((settleGas_measures (hran.fits ha) hlimit₂).mono ?_ ?_)
        · rintro tally _ ⟨hcharged, hforth, rfl⟩
          rw [hm₂] at hforth ⊢
          refine ends_bind.mpr (returnGas_ends.mono (fun _ _ _ => trivial) ?_)
          rintro stop _ ⟨rfl, ⟨hmore, -⟩ | ⟨error, rfl, herror⟩⟩
          -- More than the whole limit is never left.
          · exact absurd (hcharged.remaining_le (hran.fits ha)) (Nat.not_le_of_lt hmore)
          · exact .unpaid (.intro hb ha hran hcharged) hforth herror
        · rintro stop _ ⟨rfl, ⟨hfloor, rfl⟩ | ⟨tally, hcharged, hback, rfl⟩⟩
          · rw [hm₂]
            exact .unlimited hfloor
          · rw [hm₂] at hback ⊢
            exact .backwards (.intro hb ha hran hcharged) hback
      · rintro stop p₂ ⟨⟨cause, rfl, hcause⟩, hm₂, hnever⟩
        rw [hm₂]
        exact .unexecuted hb ha hnever hcause
  -- The collector is unknown, or the payment is refused.
  · rintro stop _ ⟨rfl, error, rfl, ⟨-, hunknown⟩ | herror⟩
    · exact .unbought fun bought hb => by cases hunknown.symm.trans hb.collector
    · refine .unbought fun bought hb => ?_
      obtain ⟨paid, hpaid, -⟩ := hb.paid
      cases herror.symm.trans hpaid

end

end Transition

namespace Engine

open Fallible Transition

variable {ν : Type} {e : Engine} {interpreter : Interpreter ν} {m : Message} {b : Block}
  {meter meter' : Meter} {keep : Bool} {c : ExecutionConfig} {price : Amount} {intrinsic : Gas}
  {executed : Ledger} {tally : GasTally} {stop : Stop}

theorem Admits.unique {c' : ExecutionConfig} {price' : Amount} {intrinsic' : Gas}
    (ha : e.Admits m b meter c price intrinsic) (ha' : e.Admits m b meter c' price' intrinsic') :
    c = c' ∧ price = price' ∧ intrinsic = intrinsic' := by
  have htable := Except.ok.inj (ha.table.symm.trans ha'.table)
  have hconfig := ha'.config
  rw [← htable] at hconfig
  cases ha.config.symm.trans hconfig
  cases ha.checked.symm.trans ha'.checked
  exact ⟨rfl, rfl, rfl⟩

/-- A message of the engine was measured. -/
def Measures (interpreter : Interpreter ν) (e : Engine) (m : Message) (b : Block) (meter : Meter)
    (c : ExecutionConfig) (price : Amount) (executed : Ledger) (tally : GasTally) : Prop :=
  ∃ intrinsic, e.Admits m b meter c price intrinsic ∧
    Measured interpreter ⟨e.headers, b, c.precompiles⟩ c m price intrinsic e.ledger.openScope executed
      tally

theorem Measures.remaining_le (hm : Measures interpreter e m b meter c price executed tally) :
    tally.remaining ≤ m.gasLimit := by
  obtain ⟨intrinsic, -, hmeasured⟩ := hm
  exact hmeasured.remaining_le

/-- What a message that gets no receipt leaves in the meter. Where its scope cannot be closed, that is
the cause. -/
inductive Halts (interpreter : Interpreter ν) (e : Engine) (m : Message) (b : Block) (meter : Meter) :
    Stop → Meter → Prop
  | refused {cause : TransitionError} : cause.IsEarly →
      (∀ c price intrinsic, ¬e.Admits m b meter c price intrinsic) →
      Halts interpreter e m b meter (.rejected cause) meter
  | stopped {c : ExecutionConfig} {price : Amount} {intrinsic : Gas} {stop : Stop} {meter' : Meter}
      {l : Ledger} : e.Admits m b meter c price intrinsic →
      Stops interpreter ⟨e.headers, b, c.precompiles⟩ c m price intrinsic e.ledger.openScope meter stop
        meter' l →
      Halts interpreter e m b meter stop meter'
  | unclosed {c : ExecutionConfig} {price : Amount} {intrinsic : Gas} {cause : TransitionError}
      {closing : LedgerError} {meter' : Meter} {l : Ledger} : e.Admits m b meter c price intrinsic →
      Stops interpreter ⟨e.headers, b, c.precompiles⟩ c m price intrinsic e.ledger.openScope meter
        (.rejected cause) meter' l →
      l.rollback e.ledger.depth = .error closing →
      Halts interpreter e m b meter (.rejected (.ledger closing)) meter'

/-- A message that went the whole way is left with the scope that was opened for it. -/
theorem depth_of_applied {p p' : Progress ν} {h : Host} {receipt : Receipt}
    (hrun : (Transition.apply interpreter h c m price intrinsic).run.run p = (.ok receipt, p')) :
    p'.ledger.depth = p.ledger.depth := by
  obtain ⟨s, -, hledger, hcompleted⟩ := (apply_stages interpreter h c m p price intrinsic).of_run_ok hrun
  have hmeasured := hcompleted.measured
  have hreturned := hcompleted.repaid.returned hmeasured.remaining_le
  rw [hledger]
  exact hreturned.grows.depth_eq.trans hmeasured.depth_eq

/-- The table that an engine keeps is no part of what a message is applied to. -/
theorem applyChecked_halts {kept : Option (Height × PrecompileTable)}
    (ha : e.Admits m b meter c price intrinsic)
    (h : ({ e with kept }.applyChecked interpreter c m b meter keep price intrinsic).1.result =
      .error stop) :
    Halts interpreter e m b meter stop
      ({ e with kept }.applyChecked interpreter c m b meter keep price intrinsic).1.meter := by
  have hlimit := Message.gasLimit_le_of_checkRules ha.passes.rules
  have hstops := apply_stops (c := c) interpreter ⟨e.headers, b, c.precompiles⟩
    ⟨e.ledger.openScope, meter, none⟩ price ha.passes.affordable hlimit
  rcases hrun : (Transition.apply interpreter ⟨e.headers, b, c.precompiles⟩ c m price
      intrinsic).run.run ⟨e.ledger.openScope, meter, none⟩ with ⟨result, p⟩
  simp only [applyChecked, hrun] at h ⊢
  cases result with
  | error cause =>
    have hstopped := hstops.of_run_error hrun
    cases cause with
    | fault fault =>
      cases h
      exact .stopped ha hstopped
    | rejected cause =>
      cases hclosed : p.ledger.rollback e.ledger.depth with
      | ok l =>
        simp only [hclosed] at h
        cases h
        exact .stopped ha hstopped
      | error closing =>
        simp only [hclosed] at h
        cases h
        exact .unclosed ha hstopped hclosed
  | ok receipt =>
    have hdepth : p.ledger.depth = e.ledger.depth + 1 := depth_of_applied hrun
    obtain ⟨l, hclosed⟩ := Ledger.exists_close hdepth keep
    simp only [hclosed] at h
    cases h

theorem apply_halts (h : (e.apply interpreter m b meter keep).1.result = .error stop) :
    Halts interpreter e m b meter stop (e.apply interpreter m b meter keep).1.meter := by
  by_cases hadmits : ∃ c price intrinsic, e.Admits m b meter c price intrinsic
  · obtain ⟨c, price, intrinsic, ha⟩ := hadmits
    obtain ⟨kept, hsnd⟩ := tableFor_snd e b.height
    rw [apply_of_admits ha, hsnd] at h ⊢
    exact applyChecked_halts ha h
  · obtain ⟨cause, hearly, hrefused⟩ := (admits_or_refused e m b meter).resolve_left hadmits
    rw [hrefused interpreter keep] at h ⊢
    cases h
    exact .refused hearly fun c price intrinsic ha => hadmits ⟨c, price, intrinsic, ha⟩

/-- The scope of a message that is measured can be closed, so that it stops for what it is. -/
theorem Halts.of_measures (hh : Halts interpreter e m b meter stop meter')
    (hm : Measures interpreter e m b meter c price executed tally) :
    tally.used < meter.consumed ∧ stop = .fault (.meterBackwards meter.consumed tally.used) ∨
      meter.consumed ≤ tally.used ∧ meter' = { meter with consumed := tally.used } ∧
        ∃ error, stop = .rejected (.feeSettlement error) ∧ Unpaid c m price executed tally error := by
  obtain ⟨intrinsic, ha, hm⟩ := hm
  cases hh with
  | refused _ hnever => exact absurd ha (hnever c price intrinsic)
  | stopped ha' hs =>
    obtain ⟨rfl, rfl, rfl⟩ := ha.unique ha'
    exact (hs.of_measured hm).2
  | unclosed ha' hs hclosing =>
    obtain ⟨rfl, rfl, rfl⟩ := ha.unique ha'
    obtain ⟨rfl, -⟩ := hs.of_measured hm
    obtain ⟨l, hclosed⟩ := Ledger.exists_close hm.depth_eq false
    cases hclosing.symm.trans hclosed

/-- A message that is rejected leaves its meter as it was, unless it was measured and could not be
paid back. -/
theorem Halts.meter_eq_or {cause : TransitionError}
    (hh : Halts interpreter e m b meter (.rejected cause) meter') :
    meter' = meter ∨ ∃ c price executed tally error,
      Measures interpreter e m b meter c price executed tally ∧
        Unpaid c m price executed tally error := by
  cases hh with
  | refused => exact .inl rfl
  | stopped ha hs | unclosed ha hs =>
    cases hs with
    | unbought | unexecuted | unlimited => exact .inl rfl
    | unpaid hm _ hunpaid => exact .inr ⟨_, _, _, _, _, ⟨_, ha, hm⟩, hunpaid⟩

/-! ## The meter of a rejected message -/

/-- A message that is rejected leaves its meter as it was, unless it was measured and what was left of
its gas could not be paid back: then that is the cause, and the meter shows what it would have been
charged. It is always paid back where the collector still holds what it was paid. -/
theorem rejected_keeps_meter {cause : TransitionError}
    (h : (e.apply interpreter m b meter keep).1.result = .error (.rejected cause)) :
    ((e.apply interpreter m b meter keep).1.meter = meter ∨
        ∃ c price executed tally error, Measures interpreter e m b meter c price executed tally ∧
          Unpaid c m price executed tally error) ∧
      (∀ {c : ExecutionConfig} {price : Amount} {executed : Ledger} {tally : GasTally},
        Measures interpreter e m b meter c price executed tally →
          (∃ error, Unpaid c m price executed tally error ∧ cause = .feeSettlement error) ∧
            meter.consumed ≤ tally.used ∧
            (e.apply interpreter m b meter keep).1.meter = { meter with consumed := tally.used }) ∧
      ((∀ {c : ExecutionConfig} {price : Amount} {executed : Ledger} {tally : GasTally},
        Measures interpreter e m b meter c price executed tally → Paid c m price executed) →
          (e.apply interpreter m b meter keep).1.meter = meter) := by
  have hhalts := apply_halts h
  have hmeter := hhalts.meter_eq_or
  refine ⟨hmeter, fun hm => ?_, fun hpaid => ?_⟩
  · rcases hhalts.of_measures hm with ⟨-, hfault⟩ | ⟨hforth, hset, error, hcause, hunpaid⟩
    · cases hfault
    · cases hcause
      exact ⟨⟨error, hunpaid, rfl⟩, hforth, hset⟩
  · refine hmeter.resolve_right ?_
    rintro ⟨c, price, executed, tally, error, hm, hunpaid⟩
    exact (hpaid hm).not_unpaid hm.remaining_le hunpaid

/-- The message stopped in its execution, with its meter as it was. -/
theorem overreported_keeps_meter :
    let applied := small.apply greedy generous smallBlock ⟨100000, 7⟩ true
    applied.1.result = .error (.rejected (.interpreterGasOverflow 19001 19000)) ∧
      applied.1.meter = ⟨100000, 7⟩ := by
  have hrejected : (small.apply greedy generous smallBlock ⟨100000, 7⟩ true).1.result =
      .error (.rejected (.interpreterGasOverflow 19001 19000)) := rfl
  obtain ⟨hmeter, hmeasured, -⟩ := rejected_keeps_meter hrejected
  refine ⟨hrejected, hmeter.resolve_right ?_⟩
  rintro ⟨c, price, executed, tally, error, hm, -⟩
  obtain ⟨⟨_, -, hcause⟩, -⟩ := hmeasured hm
  cases hcause

/-- The engine, where the collector lets account 1 spend what it holds. -/
def drained : Engine :=
  { small with
    ledger := small.ledger.setGrant (.single (.ofLow 2) (.ofLow 1) "aledger" 1000000 none) }

/-- Has the token move what the collector was paid for the message. -/
def draining : Message :=
  { spending with data := (TokenRequest.transferFrom (.ofLow 2) (.ofLow 5) 120000).calldata }

/-- Nothing is left to pay back the sender: the message is rejected, and half its limit stays charged. -/
theorem drained_collector_leaves_charge :
    let applied := drained.apply Native.interpreter draining smallBlock (.ofLimit 100000) true
    applied.1.result =
        .error (.rejected (.feeSettlement (.insufficientFunds (.ofLow 2) "aledger" 60000 0))) ∧
      applied.2.ledger = drained.ledger ∧ applied.1.meter = ⟨100000, 30000⟩ :=
  ⟨rfl, rfl, rfl⟩

end Engine

end EvmBank
