import EvmBank.Engine.Error
import EvmBank.Execution.Config

/-!
What a message has to satisfy before it is applied. The checks have an order, and the first that
fails gives the error.
-/

namespace EvmBank

namespace Message

def refuseIf (bad : Prop) [Decidable bad] (cause : ValidationError) : Except ValidationError Unit :=
  if bad then .error cause else .ok ()

/-- Refuses a message that the rules of the block do not admit. -/
def checkRules (m : Message) (c : ExecutionConfig) (meterLimit : Gas) :
    Except ValidationError Unit := do
  refuseIf (meterLimit < m.gasLimit) (.gasLimitExceedsMeter m.gasLimit meterLimit)
  refuseIf (m.fee.isDynamic ∧ !c.rules.london) .dynamicFeeNotSupported
  refuseIf (!m.accessList.isEmpty ∧ !c.rules.berlin) .accessListNotSupported
  match m.fee with
  | .dynamic feeCap tipCap => refuseIf (feeCap < tipCap) (.tipAboveFeeCap tipCap feeCap)
  | .legacy _ => pure ()
  match c.rules.london, c.baseFee with
  | true, some baseFee => refuseIf (m.fee.cap < baseFee) (.feeCapBelowBaseFee m.fee.cap baseFee)
  | _, _ => pure ()
  refuseIf (m.isCreation ∧ c.rules.shanghai ∧ maxInitCodeSize < m.data.length)
    (.initCodeTooLarge m.data.length maxInitCodeSize)

/-- What a message costs at most at a price: its gas and its value. -/
def cost? (m : Message) (price : Amount) : Option Amount :=
  (price.mul? m.gasLimit.widen).bind fun fee => fee.add? m.value

/-- Refuses a message that does not fit its sender's account. -/
def checkSender (m : Message) (c : ExecutionConfig) (l : Ledger) : Except ValidationError Amount := do
  refuseIf (l.nonce m.sender ≠ m.nonce) (.nonceMismatch (l.nonce m.sender) m.nonce)
  let price := m.fee.effectivePrice c.baseFee
  match m.cost? price with
  | none => .error .costOverflow
  | some required =>
    let available := l.balance m.sender c.evmDenom
    refuseIf (available < required) (.insufficientBalance required available)
    return price

def validate (m : Message) (c : ExecutionConfig) (l : Ledger) (meterLimit : Gas) :
    Except ValidationError Amount := do
  m.checkRules c meterLimit
  m.checkSender c l

/-- The price and the intrinsic gas of a message that may be applied. -/
def precheck (m : Message) (c : ExecutionConfig) (l : Ledger) (meterLimit : Gas) :
    Except TransitionError (Amount × Gas) := do
  let price ← (m.validate c l meterLimit).mapError .invalidTransaction
  let intrinsic ←
    (intrinsicGas m.data m.accessList m.isCreation c.rules).mapError .intrinsicGas
  if m.gasLimit < intrinsic then
    throw (.intrinsicGasExceedsLimit intrinsic m.gasLimit)
  return (price, intrinsic)

end Message

end EvmBank
