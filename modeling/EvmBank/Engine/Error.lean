import EvmBank.Gas.Intrinsic
import EvmBank.Genesis

/-!
Why a message is not applied. A message that runs and fails is no error: it has a receipt.
-/

namespace EvmBank

/-- Why a message is refused before it costs anything. -/
inductive ValidationError where
  | nonceMismatch (expected got : Nonce)
  | insufficientBalance (required available : Amount)
  | accessListNotSupported
  | dynamicFeeNotSupported
  | tipAboveFeeCap (tip feeCap : Amount)
  | feeCapBelowBaseFee (feeCap baseFee : Amount)
  | gasLimitExceedsMeter (gasLimit meterLimit : Gas)
  | negativeGasPrice (cause : NegativePrice)
  | costOverflow
  | initCodeTooLarge (size limit : Nat)
deriving DecidableEq

def NegativePrice.message (e : NegativePrice) : String :=
  s!"gas price cannot be negative: {e.price}"

def ValidationError.message : ValidationError → String
  | nonceMismatch expected got => s!"nonce mismatch: account nonce {expected}, message nonce {got}"
  | insufficientBalance required available =>
    s!"insufficient balance: required {required}, available {available}"
  | accessListNotSupported => "access list transactions are not enabled"
  | dynamicFeeNotSupported => "dynamic fee transactions are not enabled"
  | tipAboveFeeCap tip feeCap => s!"max priority fee {tip} higher than max fee {feeCap}"
  | feeCapBelowBaseFee feeCap baseFee => s!"max fee {feeCap} less than block base fee {baseFee}"
  | gasLimitExceedsMeter gasLimit meterLimit =>
    s!"gas limit {gasLimit} exceeds host meter limit {meterLimit}"
  | negativeGasPrice cause => cause.message
  | costOverflow => "transaction cost overflows"
  | initCodeTooLarge size limit => s!"init code size {size} exceeds limit {limit}"

inductive TransitionError where
  | invalidTransaction (cause : ValidationError)
  | intrinsicGas (cause : IntrinsicGasError)
  | intrinsicGasExceedsLimit (intrinsic limit : Gas)
  | feeSettlement (cause : LedgerError)
  | refundExceedsGasLimit (leftover limit : Gas)
  | minimumGasOverflow (gasLimit : Gas)
  | config (cause : ConfigError)
  | registry (cause : RegistryError)
  | interpreterGasOverflow (used available : Gas)
  | ledger (cause : LedgerError)
deriving DecidableEq

namespace TransitionError

def message : TransitionError → String
  | invalidTransaction cause => "invalid transaction: " ++ cause.message
  | intrinsicGas cause => cause.message
  | intrinsicGasExceedsLimit intrinsic limit =>
    s!"intrinsic gas too low: have {limit}, want {intrinsic}"
  | feeSettlement cause => "fee settlement failed: " ++ cause.message
  | refundExceedsGasLimit leftover limit => s!"leftover gas {leftover} exceeds gas limit {limit}"
  | minimumGasOverflow gasLimit => s!"minimum gas used overflows u64 for gas limit {gasLimit}"
  | config cause => "execution config: " ++ cause.message
  | registry cause => "precompile table: " ++ cause.message
  | interpreterGasOverflow used available => s!"interpreter used {used} gas out of {available}"
  | ledger cause => "ledger: " ++ cause.message

def reason : TransitionError → String
  | invalidTransaction _ => "invalid_transaction"
  | intrinsicGas _ | intrinsicGasExceedsLimit _ _ => "intrinsic_gas"
  | feeSettlement _ | refundExceedsGasLimit _ _ => "fee_settlement"
  | minimumGasOverflow _ | interpreterGasOverflow _ _ => "gas_accounting"
  | config _ => "config"
  | registry _ => "registry"
  | ledger _ => "ledger"

end TransitionError

end EvmBank
