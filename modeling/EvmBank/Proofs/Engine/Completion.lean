import EvmBank.Proofs.Engine.Outcomes

/-!
# The way to a receipt

A message that gets a receipt has gone through all stages, whatever its interpreter did to the scopes
of the ledger: its gas was bought, it was executed or denied, its gas was charged and the meter set
to it, and what was left was paid back (`Completed`). The receipt tells of these stages
(`Stages.receipt`), and the scope of the message is closed behind them (`apply_completed`).
-/

namespace EvmBank

/-- A cause that is found when the execution of a message comes to its end. -/
def TransitionError.IsOfExecution : TransitionError → Prop
  | .interpreterGasOverflow _ _ | .ledger _ => True
  | _ => False

namespace Transition

open Fallible

variable {ν : Type}

/-! ## Stages -/

/-- What a message came to on the way to its receipt. -/
structure Stages where
  /-- The gas that was left to execute it. -/
  available : Gas
  /-- The ledger when all gas was bought. -/
  bought : Ledger
  result : ExecutionResult
  /-- The ledger when the scope of the execution was closed. -/
  executed : Ledger
  tally : GasTally
  /-- The ledger when the gas that was left was paid back. -/
  repaid : Ledger

/-- What is told of the stages in the end. -/
def Stages.receipt (s : Stages) (price : Amount) : Receipt where
  gasUsed := s.tally.used
  effectivePrice := price
  logs := s.repaid.logs
  reverted := s.result.reverted
  vmError := s.result.vmError.getD ""
  returnData := s.result.returnData
  created := s.result.created
  phases :=
    [.validated, .gasComputed, if s.result.reverted then .reverted else .executed, .refunded,
      .settled]

/-- What the execution of a message reports: a failure without gas, if its sender may not do what it
asks for. -/
def report (interpreter : Interpreter ν) (h : Host) (c : ExecutionConfig) (m : Message)
    (available : Gas) (l : Ledger) : ExecutionResult :=
  if (c.accessControl.policy m.isCreation).allows m.sender then
    (h.run (interpreter c m available) l.openScope).1.1
  else .failure 0 permissionDenied

/-- A message was denied, or executed in a scope that could be closed as its result says. Nothing is
asked of the interpreter. -/
inductive Ran (interpreter : Interpreter ν) (h : Host) (c : ExecutionConfig) (m : Message)
    (available : Gas) (l : Ledger) : ExecutionResult → Ledger → Prop
  | denied : (c.accessControl.policy m.isCreation).allows m.sender = false →
      Ran interpreter h c m available l (.failure 0 permissionDenied) l
  | closed {result : ExecutionResult} {notes : ν} {ran l' : Ledger} :
      (c.accessControl.policy m.isCreation).allows m.sender = true →
      h.run (interpreter c m available) l.openScope = ((result, notes), ran) →
      result.gasUsed ≤ available →
      (if result.reverted then ran.rollback l.depth else ran.commit l.depth) = .ok l' →
      Ran interpreter h c m available l result l'

/-- A message went through all stages, from a ledger and a meter to another meter. -/
structure Completed (interpreter : Interpreter ν) (h : Host) (c : ExecutionConfig) (m : Message)
    (price : Amount) (intrinsic : Gas) (l : Ledger) (meter : Meter) (s : Stages) (meter' : Meter) :
    Prop where
  bought : Bought c m price l s.bought
  available : m.gasLimit.sub? intrinsic = some s.available
  ran : Ran interpreter h c m s.available s.bought s.result s.executed
  charged : Charged c m intrinsic s.result s.tally
  metered : meter.reconcile s.tally.used = .ok meter'
  repaid : Repaid c m price s.tally.remaining s.executed s.repaid

/-- An execution that stayed inside its scope has closed it as its result says. -/
theorem Ran.executed {interpreter : Interpreter ν} {h : Host} {c : ExecutionConfig} {m : Message}
    {available : Gas} {l l' : Ledger} {result : ExecutionResult}
    (hr : Ran interpreter h c m available l result l')
    (hin : l.Inside (h.run (interpreter c m available) l.openScope).2) :
    Executed interpreter h c m available l result l' := by
  cases hr with
  | denied hdenied => exact .denied hdenied
  | closed hallowed hrun hgas hclosed =>
    rw [hrun] at hin
    split at hclosed
    · rename_i hreverted
      cases hclosed.symm.trans hin.rollback_eq
      exact .reverted hallowed hrun hgas hreverted
    · rename_i hkept
      exact .kept hallowed hrun hgas (by simpa using hkept) hin hclosed

/-- An execution that failed has left nothing but logs, if its scope stayed open while it ran. -/
theorem Ran.of_reverted {interpreter : Interpreter ν} {h : Host} {c : ExecutionConfig} {m : Message}
    {available : Gas} {l l' : Ledger} {result : ExecutionResult}
    (hr : Ran interpreter h c m available l result l') (hreverted : result.reverted = true)
    (hopen : (c.accessControl.policy m.isCreation).allows m.sender = true →
      (interpreter c m available).LeavesOpen h l.openScope.depth l.openScope) :
    ∃ logs, l' = { l with logs } := by
  cases hr with
  | denied => exact ⟨l.logs, rfl⟩
  | closed hallowed hrun _ hclosed =>
    have hwithin := (hopen hallowed).run (.openScope l) (Nat.lt_succ_self l.depth)
    rw [hrun] at hwithin
    rw [if_pos hreverted] at hclosed
    have hdepth := (Ledger.depth_of_close false hclosed).2
    cases hclosed.symm.trans (hwithin.rollback_self hdepth)
    exact ⟨_, rfl⟩

/-! ## The execution -/

variable {interpreter : Interpreter ν} {h : Host} {c : ExecutionConfig} {m : Message}
  {available : Gas} {p : Progress ν}

/-- The execution of a message comes to a result wherever there is one to come to. -/
theorem execute_ran :
    Ends (execute interpreter h c m available)
      (fun result p' => Ran interpreter h c m available p.ledger result p'.ledger ∧
        p'.meter = p.meter)
      (fun stop p' => (∃ cause, stop = .rejected cause ∧ cause.IsOfExecution) ∧
        p'.meter = p.meter ∧
        ∀ result l', ¬Ran interpreter h c m available p.ledger result l') p := by
  unfold execute
  split
  · rename_i hallowed
    have hnotDenied : ¬(c.accessControl.policy m.isCreation).allows m.sender = false := by
      rw [hallowed]
      exact nofun
    simp only [interpret, ends_bind, ends_ledger]
    cases hrun : h.run (interpreter c m available) p.ledger.openScope with
    | mk returned ran =>
      obtain ⟨result, notes⟩ := returned
      simp only [ends_modify]
      split
      · rename_i hgas
        have hnever : ∀ result l', ¬Ran interpreter h c m available p.ledger result l' := by
          intro result l' hr
          cases hr with
          | denied hdenied => exact hnotDenied hdenied
          | closed _ hrun' hfits _ =>
            cases hrun.symm.trans hrun'
            exact absurd hfits (Nat.not_le_of_lt hgas)
        rw [ends_bind, ends_closeScope]
        split <;> exact ⟨⟨_, rfl, trivial⟩, rfl, hnever⟩
      · rename_i hgas
        rw [ends_bind, ends_closeScope]
        have hside : (if !result.reverted then ran.commit p.ledger.depth
            else ran.rollback p.ledger.depth) =
            if result.reverted then ran.rollback p.ledger.depth else ran.commit p.ledger.depth := by
          cases result.reverted <;> rfl
        rw [hside]
        cases hclosed : (if result.reverted then ran.rollback p.ledger.depth
          else ran.commit p.ledger.depth) with
        | error cause =>
          refine ⟨⟨_, rfl, trivial⟩, rfl, fun result' l' hr => ?_⟩
          cases hr with
          | denied hdenied => exact hnotDenied hdenied
          | closed _ hrun' _ hclosed' =>
            cases hrun.symm.trans hrun'
            cases hclosed.symm.trans hclosed'
        | ok l => exact ⟨.closed hallowed hrun (Nat.le_of_not_lt hgas) hclosed, rfl⟩
  · rename_i hdenied
    exact ⟨.denied (by simpa using hdenied), rfl⟩

/-! ## All stages -/

theorem apply_stages (interpreter : Interpreter ν) (h : Host) (c : ExecutionConfig) (m : Message)
    (p : Progress ν) (price : Amount) (intrinsic : Gas) :
    Ends (apply interpreter h c m price intrinsic)
      (fun receipt p' => ∃ s, receipt = s.receipt price ∧ p'.ledger = s.repaid.dropLogs ∧
        Completed interpreter h c m price intrinsic p.ledger p.meter s p'.meter)
      (fun _ _ => True) p := by
  refine ends_bind.mpr (buyGas_ends.mono ?_ fun _ _ _ => trivial)
  rintro _ _ ⟨l₁, hbought, rfl⟩
  cases havailable : m.gasLimit.sub? intrinsic with
  | none => exact trivial
  | some available =>
    refine ends_bind.mpr (execute_ran.mono ?_ fun _ _ _ => trivial)
    rintro result p₂ ⟨hran, hm₂⟩
    refine ends_bind.mpr (settleGas_ends.mono ?_ fun _ _ _ => trivial)
    rintro tally p₃ ⟨hcharged, hmetered, hl₃⟩
    refine ends_bind.mpr (returnGas_ends.mono ?_ fun _ _ _ => trivial)
    rintro _ _ ⟨-, l₄, hrepaid, rfl⟩
    exact ⟨⟨available, l₁, result, p₂.ledger, tally, l₄⟩, rfl, rfl,
      ⟨hbought, havailable, hran, hcharged, hm₂ ▸ hmetered, hl₃ ▸ hrepaid⟩⟩

end Transition

namespace Engine

open Fallible Transition

variable {ν : Type} {e : Engine} {interpreter : Interpreter ν} {m : Message} {b : Block}
  {meter : Meter} {keep : Bool}

/-- A message that got a receipt passed the checks and all stages, and its scope was closed. -/
theorem apply_completed {receipt : Receipt}
    (h : (e.apply interpreter m b meter keep).1.result = .ok receipt) :
    ∃ c price intrinsic s, e.Admits m b meter c price intrinsic ∧ receipt = s.receipt price ∧
      Completed interpreter ⟨e.headers, b, c.precompiles⟩ c m price intrinsic e.ledger.openScope
        meter s (e.apply interpreter m b meter keep).1.meter ∧
      (if keep then s.repaid.dropLogs.commit e.ledger.depth
        else s.repaid.dropLogs.rollback e.ledger.depth) =
          .ok (e.apply interpreter m b meter keep).2.ledger := by
  rcases apply_cases e interpreter m b meter keep with
    ⟨cause, kept, -, happly⟩ | ⟨c, price, intrinsic, kept, hadmits, happly⟩
  · rw [happly] at h
    cases h
  · rw [happly] at h ⊢
    have hends := apply_stages interpreter ⟨e.headers, b, c.precompiles⟩ c m
      ⟨e.ledger.openScope, meter, none⟩ price intrinsic
    cases hrun : (Transition.apply interpreter ⟨e.headers, b, c.precompiles⟩ c m price
        intrinsic).run.run ⟨e.ledger.openScope, meter, none⟩ with
    | mk result p =>
      simp only [applyChecked, hrun] at h ⊢
      cases result with
      | error stop => cases stop <;> cases h
      | ok told =>
        obtain ⟨s, htold, hledger, hcompleted⟩ := hends.of_run_ok hrun
        dsimp only at h ⊢
        rw [hledger] at h ⊢
        cases hclosed : (if keep then s.repaid.dropLogs.commit e.ledger.depth
          else s.repaid.dropLogs.rollback e.ledger.depth) with
        | error cause =>
          rw [hclosed] at h
          cases h
        | ok l =>
          rw [hclosed] at h
          cases h
          exact ⟨c, price, intrinsic, s, hadmits, htold, hcompleted, hclosed⟩

end Engine

end EvmBank
