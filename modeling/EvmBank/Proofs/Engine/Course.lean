import EvmBank.Engine.Transition
import EvmBank.Proofs.Execution.Nesting

/-!
# The course of a message

How far a message came, in terms of the ledger: all its gas is bought (`Bought`), it is executed
(`Executed`), and what was not used is paid back (`Returned`). The scope of the execution always
closes, if the interpreter is well nested. So a message that stops leaves the ledger at one of three
points (`Reached`), and one that ends has gone the whole way (`apply_ends`).
-/

namespace EvmBank.Transition

open Fallible Ledger

variable {ν : Type}

/-! ## Stages -/

/-- The gas of a message was bought, and the message counted. -/
structure Bought (c : ExecutionConfig) (m : Message) (price : Amount) (l l' : Ledger) : Prop where
  collector : l.accountExists c.feeCollector = true
  paid : ∃ paid, l.transfer m.sender c.feeCollector c.evmDenom (price.satMul m.gasLimit.widen) =
    .ok paid ∧ l' = paid.setNonce m.sender (m.nonce.satAdd 1)

/-- A message was executed. What an execution that failed has written is gone. -/
inductive Executed (interpreter : Interpreter ν) (h : Host) (c : ExecutionConfig) (m : Message)
    (available : Gas) (l : Ledger) : ExecutionResult → Ledger → Prop
  | denied : (c.accessControl.policy m.isCreation).allows m.sender = false →
      Executed interpreter h c m available l (.failure 0 permissionDenied) l
  | reverted {result : ExecutionResult} {notes : ν} {ran : Ledger} :
      (c.accessControl.policy m.isCreation).allows m.sender = true →
      h.run (interpreter c m available) l.openScope = ((result, notes), ran) →
      result.gasUsed ≤ available → result.reverted = true →
      Executed interpreter h c m available l result l
  | kept {result : ExecutionResult} {notes : ν} {ran l' : Ledger} :
      (c.accessControl.policy m.isCreation).allows m.sender = true →
      h.run (interpreter c m available) l.openScope = ((result, notes), ran) →
      result.gasUsed ≤ available → result.reverted = false → l.Inside ran →
      ran.commit l.depth = .ok l' → Executed interpreter h c m available l result l'

/-- What a message is charged in the end. -/
inductive Charged (c : ExecutionConfig) (m : Message) (intrinsic : Gas) (result : ExecutionResult) :
    GasTally → Prop
  | intro {settled : GasTally} {floor : Gas} :
      ((((GasTally.ofLimit m.gasLimit).charge intrinsic).charge result.gasUsed).addRefund
        result.refund).settleRefund c.rules.refundQuotient = .ok settled →
      c.minGasMultiplier.floor? m.gasLimit = some floor →
      Charged c m intrinsic result (settled.applyFloor floor)

/-- The gas that was left is paid back, if there is any. -/
def Repaid (c : ExecutionConfig) (m : Message) (price : Amount) (leftover : Gas) (l l' : Ledger) :
    Prop :=
  leftover = 0 ∧ l' = l ∨
    l.transfer c.feeCollector m.sender c.evmDenom (price.satMul leftover.widen) = .ok l'

/-- Gas that was not used is paid back. -/
inductive Returned (c : ExecutionConfig) (m : Message) (price : Amount) (l : Ledger) : Ledger → Prop
  | nothing : Returned c m price l l
  | paid {leftover : Gas} {l' : Ledger} : leftover ≤ m.gasLimit →
      l.transfer c.feeCollector m.sender c.evmDenom (price.satMul leftover.widen) = .ok l' →
      Returned c m price l l'

/-- More gas costs no less. -/
theorem satMul_widen_le (price : Amount) {gas gas' : Gas} (h : gas ≤ gas') :
    price.satMul gas.widen ≤ price.satMul gas'.widen := by
  have hproduct := Nat.mul_le_mul_left price.toNat h
  rw [Quantity.le_def, Quantity.toNat_satMul, Quantity.toNat_satMul, Quantity.toNat_widen,
    Quantity.toNat_widen]
  omega

section
variable (interpreter : Interpreter ν) (h : Host) (c : ExecutionConfig) (m : Message)
  (price : Amount) (intrinsic : Gas) (l : Ledger)

/-- Where a message that stops may have come to. -/
inductive Reached : Ledger → Prop
  | start : Reached l
  | bought {l₁ : Ledger} : Bought c m price l l₁ → Reached l₁
  | executed {available : Gas} {l₁ l₂ : Ledger} {result : ExecutionResult} :
      Bought c m price l l₁ → m.gasLimit.sub? intrinsic = some available →
      Executed interpreter h c m available l₁ result l₂ → Reached l₂

/-- A message has gone the whole way, to an empty buffer of logs. -/
inductive Finished : Ledger → Prop
  | intro {available : Gas} {l₁ l₂ l₃ : Ledger} {result : ExecutionResult} :
      Bought c m price l l₁ → m.gasLimit.sub? intrinsic = some available →
      Executed interpreter h c m available l₁ result l₂ → Returned c m price l₂ l₃ →
      Finished l₃.dropLogs

end

/-! ## Stages inside a scope -/

section
variable {interpreter : Interpreter ν} {h : Host} {c : ExecutionConfig} {m : Message}
  {price : Amount} {intrinsic : Gas} {base l l' : Ledger}

theorem Bought.grows (hb : Bought c m price l l') : l.Grows l' := by
  obtain ⟨paid, hp, rfl⟩ := hb.paid
  exact (Grows.transfer hp).setNonce m.sender _

theorem Executed.inside {available : Gas} {result : ExecutionResult}
    (hx : Executed interpreter h c m available l result l') (hl : base.Inside l) :
    base.Inside l' := by
  cases hx with
  | denied | reverted => exact hl
  | kept _ _ _ _ hin hc => exact hin.commit_into hl hc

theorem Returned.grows (hr : Returned c m price l l') : l.Grows l' := by
  cases hr with
  | nothing => exact .refl
  | paid _ ht => exact .transfer ht

theorem Repaid.returned {leftover : Gas} (hr : Repaid c m price leftover l l')
    (hle : leftover ≤ m.gasLimit) : Returned c m price l l' := by
  rcases hr with ⟨-, rfl⟩ | hpaid
  · exact .nothing
  · exact .paid hle hpaid

theorem Reached.inside (hr : Reached interpreter h c m price intrinsic l l')
    (hl : base.Inside l) : base.Inside l' := by
  cases hr with
  | start => exact hl
  | bought hb => exact hl.grows hb.grows
  | executed hb _ hx => exact hx.inside (hl.grows hb.grows)

theorem Finished.inside (hf : Finished interpreter h c m price intrinsic l l')
    (hl : base.Inside l) : ∃ l₃, base.Inside l₃ ∧ l' = l₃.dropLogs := by
  obtain ⟨hb, _, hx, hr⟩ := hf
  exact ⟨_, (hx.inside (hl.grows hb.grows)).grows hr.grows, rfl⟩

end

/-! ## One part at a time -/

variable {interpreter : Interpreter ν} {h : Host} {c : ExecutionConfig} {m : Message}
  {price : Amount} {available : Gas} {p : Progress ν}

theorem ends_ledger {Q : Ledger → Progress ν → Prop} {E : Stop → Progress ν → Prop} :
    Ends ledger Q E p ↔ Q p.ledger p := Iff.rfl

theorem payGas_ends {source target : Address} {gas : Gas} :
    Ends (payGas c price source target gas)
      (fun _ p' => ∃ l, p.ledger.transfer source target c.evmDenom (price.satMul gas.widen) = .ok l ∧
        p' = { p with ledger := l })
      (fun stop p' => p' = p ∧ ∃ error, stop = .rejected (.feeSettlement error) ∧
        p.ledger.transfer source target c.evmDenom (price.satMul gas.widen) = .error error) p := by
  simp only [payGas, ends_bind, ends_ledger]
  cases ht : p.ledger.transfer source target c.evmDenom (price.satMul gas.widen) with
  | ok l => exact ⟨l, rfl, rfl⟩
  | error error => exact ⟨rfl, error, rfl, rfl⟩

theorem buyGas_ends :
    Ends (buyGas c m price)
      (fun _ p' => ∃ l, Bought c m price p.ledger l ∧ p' = { p with ledger := l })
      (fun stop p' => p' = p ∧ ∃ error, stop = .rejected (.feeSettlement error) ∧
        (error = .unknownAccount c.feeCollector ∧ p.ledger.accountExists c.feeCollector = false ∨
          p.ledger.transfer m.sender c.feeCollector c.evmDenom (price.satMul m.gasLimit.widen) =
            .error error)) p := by
  simp only [buyGas, ends_bind, ends_ledger]
  split
  · rename_i hcollector
    exact ⟨rfl, _, rfl, .inl ⟨rfl, by simpa using hcollector⟩⟩
  · rename_i hcollector
    refine ends_bind.mpr (payGas_ends.mono ?_ ?_)
    · rintro _ _ ⟨paid, hpaid, rfl⟩
      exact ⟨_, ⟨by simpa using hcollector, paid, hpaid, rfl⟩, rfl⟩
    · rintro _ _ ⟨rfl, error, hstop, herror⟩
      exact ⟨rfl, error, hstop, .inr herror⟩

theorem ends_closeScope {scope : Nat} {keep : Bool} {Q : Unit → Progress ν → Prop}
    {E : Stop → Progress ν → Prop} : Ends (closeScope scope keep) Q E p ↔
      match if keep then p.ledger.commit scope else p.ledger.rollback scope with
      | .ok l => Q () { p with ledger := l }
      | .error cause => E (.rejected (.ledger cause)) p := by
  simp only [closeScope, ends_bind, ends_ledger]
  generalize (if keep then p.ledger.commit scope else p.ledger.rollback scope) = closed
  cases closed <;> exact Iff.rfl

/-- An execution that reports more gas than it was given is the only one that stops the message. -/
def Overreports (interpreter : Interpreter ν) (h : Host) (c : ExecutionConfig) (m : Message)
    (available : Gas) (l : Ledger) (stop : Stop) : Prop :=
  ∃ result notes ran, h.run (interpreter c m available) l.openScope = ((result, notes), ran) ∧
    available < result.gasUsed ∧
    stop = .rejected (.interpreterGasOverflow result.gasUsed available)

/-- The scope of the execution is closed whatever comes of it. -/
theorem interpret_ends
    (hin : p.ledger.Inside (h.run (interpreter c m available) p.ledger.openScope).2)
    (hallowed : (c.accessControl.policy m.isCreation).allows m.sender = true) :
    Ends (interpret interpreter h c m available)
      (fun result p' => Executed interpreter h c m available p.ledger result p'.ledger ∧
        p'.meter = p.meter)
      (fun stop p' => Overreports interpreter h c m available p.ledger stop ∧
        p'.ledger = p.ledger) p := by
  simp only [interpret, ends_bind, ends_ledger]
  cases hr : h.run (interpreter c m available) p.ledger.openScope with
  | mk returned ran =>
    obtain ⟨result, notes⟩ := returned
    have hin : p.ledger.Inside ran := by rwa [hr] at hin
    simp only [ends_modify]
    split
    · rename_i hgas
      simp only [ends_bind, ends_closeScope, hin.rollback_eq, Bool.false_eq_true, if_false]
      exact ⟨⟨result, notes, ran, hr, hgas, rfl⟩, rfl⟩
    · rename_i hgas
      have hgas := Nat.le_of_not_lt hgas
      cases hv : result.reverted with
      | true =>
        simp only [ends_bind, ends_closeScope, Bool.not_true, Bool.false_eq_true, if_false,
          hin.rollback_eq]
        exact ⟨.reverted hallowed hr hgas hv, rfl⟩
      | false =>
        have hc := hin.within.commit_self hin.depth
        simp only [ends_bind, ends_closeScope, Bool.not_false, if_true, hc]
        exact ⟨.kept hallowed hr hgas hv hin hc, rfl⟩

theorem execute_ends
    (hin : p.ledger.Inside (h.run (interpreter c m available) p.ledger.openScope).2) :
    Ends (execute interpreter h c m available)
      (fun result p' => Executed interpreter h c m available p.ledger result p'.ledger ∧
        p'.meter = p.meter)
      (fun stop p' => Overreports interpreter h c m available p.ledger stop ∧
        p'.ledger = p.ledger) p := by
  unfold execute
  split
  · exact interpret_ends hin ‹_›
  · rename_i hdenied
    exact ⟨Executed.denied (by simpa using hdenied), rfl⟩

/-- It stops only if there is no charge, or none that the meter can be set to. -/
theorem settleGas_ends {intrinsic : Gas} {result : ExecutionResult} :
    Ends (settleGas c m intrinsic result)
      (fun tally p' => Charged c m intrinsic result tally ∧
        p.meter.reconcile tally.used = .ok p'.meter ∧ p'.ledger = p.ledger)
      (fun stop p' => p' = p ∧ ((∃ fault, stop = .fault fault) ∨
          stop = .rejected (.minimumGasOverflow m.gasLimit)) ∧
        ∀ tally meter, Charged c m intrinsic result tally →
          p.meter.reconcile tally.used ≠ .ok meter) p := by
  simp only [settleGas, ends_bind]
  cases hsettled : ((((GasTally.ofLimit m.gasLimit).charge intrinsic).charge
    result.gasUsed).addRefund result.refund).settleRefund c.rules.refundQuotient with
  | error fault =>
    refine ⟨rfl, .inl ⟨fault, rfl⟩, ?_⟩
    rintro _ _ ⟨hsettled', -⟩ -
    cases hsettled.symm.trans hsettled'
  | ok settled =>
    cases hfloor : c.minGasMultiplier.floor? m.gasLimit with
    | none =>
      refine ⟨rfl, .inr rfl, ?_⟩
      rintro _ _ ⟨-, hfloor'⟩ -
      cases hfloor.symm.trans hfloor'
    | some floor =>
      simp only [orFault, ends_bind, ends_pure, ends_get]
      cases hmeter : p.meter.reconcile (settled.applyFloor floor).used with
      | error fault =>
        refine ⟨rfl, .inl ⟨fault, rfl⟩, ?_⟩
        rintro _ _ ⟨hsettled', hfloor'⟩ hmeter'
        cases hsettled.symm.trans hsettled'
        cases hfloor.symm.trans hfloor'
        cases hmeter.symm.trans hmeter'
      | ok meter => exact ⟨.intro hsettled hfloor, hmeter, rfl⟩

theorem returnGas_ends {leftover : Gas} :
    Ends (returnGas c m price leftover)
      (fun _ p' => leftover ≤ m.gasLimit ∧
        ∃ l, Repaid c m price leftover p.ledger l ∧ p' = { p with ledger := l })
      (fun stop p' => p' = p ∧
        (m.gasLimit < leftover ∧ stop = .rejected (.refundExceedsGasLimit leftover m.gasLimit) ∨
          ∃ error, stop = .rejected (.feeSettlement error) ∧ p.ledger.transfer c.feeCollector
            m.sender c.evmDenom (price.satMul leftover.widen) = .error error)) p := by
  simp only [returnGas]
  split
  · exact ⟨rfl, .inl ⟨‹_›, rfl⟩⟩
  · rename_i hle
    have hle := Nat.le_of_not_lt hle
    split
    · refine payGas_ends.mono ?_ ?_
      · rintro _ _ ⟨l, hpaid, rfl⟩
        exact ⟨hle, l, .inr hpaid, rfl⟩
      · rintro _ _ ⟨rfl, herror⟩
        exact ⟨rfl, .inr herror⟩
    · rename_i hzero
      exact ⟨hle, p.ledger, .inl ⟨Quantity.isZero_iff.mp (by simpa using hzero), rfl⟩, rfl⟩

/-! ## The whole course -/

/-- Once its gas is bought, the message is executed inside a scope of its own. -/
def StaysInside (interpreter : Interpreter ν) (h : Host) (c : ExecutionConfig) (m : Message)
    (price : Amount) (l : Ledger) : Prop :=
  ∀ available l₁, Bought c m price l l₁ →
    l₁.Inside (h.run (interpreter c m available) l₁.openScope).2

theorem apply_ends (p : Progress ν) (price : Amount) (intrinsic : Gas)
    (hi : StaysInside interpreter h c m price p.ledger) :
    Ends (apply interpreter h c m price intrinsic)
      (fun _ p' => Finished interpreter h c m price intrinsic p.ledger p'.ledger)
      (fun _ p' => Reached interpreter h c m price intrinsic p.ledger p'.ledger) p := by
  refine ends_bind.mpr (buyGas_ends.mono ?_ fun _ _ he => he.1 ▸ .start)
  rintro _ _ ⟨l₁, hb, rfl⟩
  cases ha : m.gasLimit.sub? intrinsic with
  | none => exact .bought hb
  | some available =>
    refine ends_bind.mpr ((execute_ends (hi available l₁ hb)).mono ?_
      fun _ _ he => he.2 ▸ .bought hb)
    rintro result p₂ ⟨hx, -⟩
    have hx' := Reached.executed hb ha hx
    refine ends_bind.mpr (settleGas_ends.mono ?_ fun _ _ he => he.1 ▸ hx')
    rintro tally p₃ ⟨-, -, hl₃⟩
    refine ends_bind.mpr (returnGas_ends.mono ?_ fun _ _ he => ?_)
    · rintro _ _ ⟨hle, l₄, hrepaid, rfl⟩
      exact .intro hb ha hx (hl₃ ▸ hrepaid.returned hle)
    · rw [he.1, hl₃]
      exact hx'

end EvmBank.Transition
