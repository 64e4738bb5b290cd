import EvmBank.Execution.Config
import EvmBank.Ledger.Call

/-!
Programs that run inside a message. A program asks the host one thing after the other and may go
on as it likes with every reply; it always comes to an end. What it asks is data, so that
statements about programs are inductions over what they ask.
-/

namespace EvmBank

/-- What a program can ask of its host. -/
inductive HostCall where
  | ledger (call : LedgerCall)
  | block
  | blockHash (height : Height)
  | precompile (address : Address) (input : Bytes) (caller : Address) (value : Amount)
      (gasLimit : Gas) (isStatic : Bool)

def HostCall.Reply : HostCall → Type
  | ledger call => call.Reply
  | block => Block
  | blockHash .. => Hash
  | precompile .. => Option (Except PrecompileError PrecompileOutput)

/-- A program with a result in `α`. -/
inductive Program (α : Type) where
  | done (result : α)
  | ask (call : HostCall) (next : call.Reply → Program α)

namespace Program

variable {α β : Type}

def bind : Program α → (α → Program β) → Program β
  | .done a, f => f a
  | .ask call next, f => .ask call fun reply => (next reply).bind f

instance : Monad Program where
  pure := .done
  bind := bind

def perform (call : HostCall) : Program call.Reply := .ask call .done

def ledger (call : LedgerCall) : Program call.Reply := .ask (.ledger call) .done

end Program

/-- What does not change while a message runs. -/
structure Host where
  headers : HeaderStore
  block : Block
  precompiles : PrecompileTable

namespace Host

/-- The reply of the host, and the ledger after it. -/
def answer (h : Host) (l : Ledger) : (call : HostCall) → call.Reply × Ledger
  | .ledger call => l.answer call
  | .block => (h.block, l)
  | .blockHash height => (h.headers.blockHash h.block height, l)
  | .precompile a input caller value gasLimit isStatic =>
    h.precompiles.dispatch a ⟨input, caller, value, gasLimit, isStatic, h.block.time⟩ l

def run {α : Type} (h : Host) : Program α → Ledger → α × Ledger
  | .done a, l => (a, l)
  | .ask call next, l =>
    let answered := h.answer l call
    h.run (next answered.1) answered.2

end Host

/-- What executing a message came to. -/
structure ExecutionResult where
  /-- The gas of the execution, beside the intrinsic gas. -/
  gasUsed : Gas
  refund : Gas
  returnData : Bytes
  /-- Whether it failed, so that its writes are undone. -/
  reverted : Bool
  vmError : Option String
  created : Option Address
deriving DecidableEq

namespace ExecutionResult

def success (gasUsed : Gas) (returnData : Bytes) : ExecutionResult :=
  ⟨gasUsed, 0, returnData, false, none, none⟩

def failure (gasUsed : Gas) (reason : String) : ExecutionResult :=
  ⟨gasUsed, 0, [], true, some reason, none⟩

end ExecutionResult

/-- How messages are executed: for a message and the gas it has left, a program that comes to a
result, and to notes of type `ν` on the way. -/
abbrev Interpreter (ν : Type) := ExecutionConfig → Message → Gas → Program (ExecutionResult × ν)

end EvmBank
