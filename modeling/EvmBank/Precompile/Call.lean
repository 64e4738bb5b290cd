import EvmBank.Abi
import EvmBank.Ledger

/-!
Calls of precompiled contracts and their results.
-/

namespace EvmBank

/-- Why a caller may not spend what it asks for. -/
inductive Unauthorized where
  | noGrant (granter grantee : Address)
  | recipientNotAllowed (recipient : Address)
  | limitExceeded (amount limit : Amount)
  | noAllowance (owner spender : Address)
deriving DecidableEq

def Unauthorized.message : Unauthorized → String
  | noGrant granter grantee => s!"no authorization from {granter} to {grantee}"
  | recipientNotAllowed recipient => s!"recipient {recipient} is not in the allow list"
  | limitExceeded amount limit => s!"requested amount {amount} exceeds allowance {limit}"
  | noAllowance owner spender => s!"no allowance from {owner} to {spender}"

inductive PrecompileError where
  | insufficientFunds (required available : Amount)
  | unauthorized (cause : Unauthorized)
  | invalidInput (cause : InputError)
  | unknownMethod (selector : Bytes)
  | outOfGas
  | nonPayable
  | writeProtection
  | allowanceOverflow
  | ledger (cause : LedgerError)
deriving DecidableEq

def PrecompileError.message : PrecompileError → String
  | insufficientFunds required available =>
    s!"insufficient funds: required {required}, available {available}"
  | unauthorized cause => "unauthorized: " ++ cause.message
  | invalidInput cause => "invalid input: " ++ cause.message
  | unknownMethod selector => "unknown method: " ++ selector.full
  | outOfGas => "precompile out of gas"
  | nonPayable => "method is not payable"
  | writeProtection => "write protection"
  | allowanceOverflow => "allowance arithmetic overflow"
  | ledger cause => "ledger: " ++ cause.message

structure PrecompileCall where
  input : Bytes
  caller : Address
  value : Amount
  gasLimit : Gas
  /-- Whether the call must not change anything. -/
  isStatic : Bool
  time : Seconds
deriving DecidableEq

/-- What a call used and returned. -/
structure PrecompileOutput where
  gasUsed : Gas
  output : Bytes
deriving DecidableEq

/-- What a precompiled contract does to the ledger. Writes made before an error stay; it is the
scope around a call that undoes them. -/
abbrev LedgerAction := ExceptT PrecompileError (StateM Ledger)

end EvmBank
