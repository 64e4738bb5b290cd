import EvmBank.Engine.Validation
import EvmBank.Execution.Program
import EvmBank.Gas.Meter
import EvmBank.Gas.Tally
import EvmBank.Receipt

/-!
The course of a message that passed the checks. All its gas is bought at first; the message is
executed in a scope of its own, which is rolled back if the execution fails, so that a failed
message still pays; and gas that was bought and not used is returned at the end.
-/

namespace EvmBank

/-- Why a message came to an end without a receipt. -/
inductive Stop where
  | rejected (cause : TransitionError)
  | fault (fault : Fault)
deriving DecidableEq

/-- What a message has changed so far. -/
structure Progress (ν : Type) where
  ledger : Ledger
  meter : Meter
  /-- The notes of the interpreter, once it has run. -/
  notes : Option ν

/-- A part of the course of a message. What was changed before a stop stays changed. -/
abbrev Transition (ν : Type) := ExceptT Stop (StateM (Progress ν))

namespace Transition

variable {ν : Type}

def reject {α : Type} (cause : TransitionError) : Transition ν α := throw (.rejected cause)

def ledger : Transition ν Ledger := do return (← get).ledger

def setLedger (l : Ledger) : Transition ν Unit := modify fun p => { p with ledger := l }

/-- Goes on with a ledger, or stops with the error that stands for its absence. -/
def useLedger (asStop : LedgerError → TransitionError) (changed : Except LedgerError Ledger) :
    Transition ν Unit :=
  match changed with
  | .ok l => setLedger l
  | .error cause => reject (asStop cause)

/-- Stops the program on a fault. -/
def orFault {α : Type} : Except Fault α → Transition ν α
  | .ok a => return a
  | .error fault => throw (.fault fault)

/-- Closes a scope, and keeps what was written in it or not. -/
def closeScope (scope : Nat) (keep : Bool) : Transition ν Unit := do
  let l ← ledger
  useLedger .ledger (if keep then l.commit scope else l.rollback scope)

def payGas (c : ExecutionConfig) (price : Amount) (source target : Address) (gas : Gas) :
    Transition ν Unit := do
  useLedger .feeSettlement
    ((← ledger).transfer source target c.evmDenom (price.satMul gas.widen))

/-- Buys all gas of a message from the fee collector, which has to exist, and counts the
message. -/
def buyGas (c : ExecutionConfig) (m : Message) (price : Amount) : Transition ν Unit := do
  if !(← ledger).accountExists c.feeCollector then
    reject (.feeSettlement (.unknownAccount c.feeCollector))
  payGas c price m.sender c.feeCollector m.gasLimit
  setLedger ((← ledger).setNonce m.sender (m.nonce.satAdd 1))

/-- Executes a message in a scope of its own. -/
def interpret (interpreter : Interpreter ν) (h : Host) (c : ExecutionConfig) (m : Message)
    (available : Gas) : Transition ν ExecutionResult := do
  let scope := (← ledger).depth
  let ((result, notes), l) := h.run (interpreter c m available) (← ledger).openScope
  modify fun p => { p with ledger := l, notes := some notes }
  if available < result.gasUsed then
    closeScope scope false
    reject (.interpreterGasOverflow result.gasUsed available)
  closeScope scope (!result.reverted)
  return result

def permissionDenied : String := "permission denied"

/-- Executes a message if its sender may do what it asks for. -/
def execute (interpreter : Interpreter ν) (h : Host) (c : ExecutionConfig) (m : Message)
    (available : Gas) : Transition ν ExecutionResult :=
  if (c.accessControl.policy m.isCreation).allows m.sender then
    interpret interpreter h c m available
  else
    return .failure 0 permissionDenied

/-- The gas that is charged for a message in the end; the host's meter is set to it. -/
def settleGas (c : ExecutionConfig) (m : Message) (intrinsic : Gas) (result : ExecutionResult) :
    Transition ν GasTally := do
  let tally := ((GasTally.ofLimit m.gasLimit).charge intrinsic).charge result.gasUsed
  let tally ← orFault ((tally.addRefund result.refund).settleRefund c.rules.refundQuotient)
  let some floor := c.minGasMultiplier.floor? m.gasLimit
    | reject (.minimumGasOverflow m.gasLimit)
  let tally := tally.applyFloor floor
  let meter ← orFault ((← get).meter.reconcile tally.used)
  modify fun p => { p with meter }
  return tally

/-- Returns what was paid for gas that was not used. -/
def returnGas (c : ExecutionConfig) (m : Message) (price : Amount) (leftover : Gas) :
    Transition ν Unit := do
  if m.gasLimit < leftover then
    reject (.refundExceedsGasLimit leftover m.gasLimit)
  if !leftover.isZero then
    payGas c price c.feeCollector m.sender leftover

def apply (interpreter : Interpreter ν) (h : Host) (c : ExecutionConfig) (m : Message)
    (price : Amount) (intrinsic : Gas) : Transition ν Receipt := do
  buyGas c m price
  let some available := m.gasLimit.sub? intrinsic
    | throw (.fault .negativeGas)
  let result ← execute interpreter h c m available
  let tally ← settleGas c m intrinsic result
  returnGas c m price tally.remaining
  let l ← ledger
  setLedger l.dropLogs
  return {
    gasUsed := tally.used
    effectivePrice := price
    logs := l.logs
    reverted := result.reverted
    vmError := result.vmError.getD ""
    returnData := result.returnData
    created := result.created
    phases :=
      [.validated, .gasComputed, if result.reverted then .reverted else .executed, .refunded,
        .settled] }

end Transition

end EvmBank
