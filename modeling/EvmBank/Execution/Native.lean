import EvmBank.Execution.Program
import EvmBank.Gas.Intrinsic

/-!
The execution of messages without a virtual machine: coins are moved, precompiled contracts are
called, and contracts are deployed by keeping their code as it stands. Calling other code fails.
-/

namespace EvmBank.Native

inductive Failure where
  | insufficientBalance
  | codeExecution
  | addressCollision
  | outOfGas
  | codeTooLarge
deriving DecidableEq

def Failure.message : Failure → String
  | insufficientBalance => "insufficient balance for transfer"
  | codeExecution => "contract code execution not supported"
  | addressCollision => "contract address collision"
  | outOfGas => "out of gas"
  | codeTooLarge => "max code size exceeded"

/-- The result of an execution that fails and uses so much gas. -/
def fail (gasUsed : Gas) (reason : Failure) : ExecutionResult :=
  .failure gasUsed reason.message

/-- Moves the value of a message; a value of zero stays where it is. -/
def moveValue (c : ExecutionConfig) (source target : Address) (value : Amount) : Program Bool := do
  if value.isZero then
    return true
  match ← Program.ledger (.transfer source target c.evmDenom value) with
  | .ok _ => return true
  | .error _ => return false

/-- The result of a precompiled contract as that of the message. A failure uses all gas, and
returns its reason unless the gas ran out. -/
def ofPrecompile (gas : Gas) : Except PrecompileError PrecompileOutput → ExecutionResult
  | .ok out => .success out.gasUsed out.output
  | .error cause =>
    let failed := ExecutionResult.failure gas cause.message
    if cause = .outOfGas then failed
    else { failed with returnData := Abi.encodeReason cause.message }

def call (c : ExecutionConfig) (m : Message) (target : Address) (gas : Gas) :
    Program ExecutionResult := do
  match ← Program.perform (.precompile target m.data m.sender m.value gas false) with
  | some result => return ofPrecompile gas result
  | none =>
    let code ← Program.ledger (.code target)
    if !List.isEmpty code then
      return fail 0 .codeExecution
    if !(← moveValue c m.sender target m.value) then
      return fail 0 .insufficientBalance
    return .success 0 []

/-- Executes a creation. The code is paid for after the value was moved. -/
def create (c : ExecutionConfig) (m : Message) (gas : Gas) : Program ExecutionResult := do
  let a := Address.ofCreation m.sender m.nonce
  let code ← Program.ledger (.code a)
  if !List.isEmpty code then
    return fail gas .addressCollision
  let nonce ← Program.ledger (.nonce a)
  if !Quantity.isZero nonce then
    return fail gas .addressCollision
  if !(← moveValue c m.sender a m.value) then
    return fail 0 .insufficientBalance
  if maxCodeSize < m.data.length then
    return fail gas .codeTooLarge
  let deposit := codeDepositGas m.data.length
  if gas < deposit then
    return fail gas .outOfGas
  Program.ledger (.setNonce a 1)
  Program.ledger (.setCode a m.data)
  return { ExecutionResult.success deposit [] with created := some a }

def execute (c : ExecutionConfig) (m : Message) (gas : Gas) : Program ExecutionResult :=
  match m.recipient with
  | some target => call c m target gas
  | none => create c m gas

/-- The execution of messages without a virtual machine. -/
def interpreter : Interpreter Unit := fun c m gas => do return (← execute c m gas, ())

end EvmBank.Native
