import EvmBank.Log
import EvmBank.Quantity

/-!
The result of a message that was applied.
-/

namespace EvmBank

/-- The stages of a message, in their order. -/
inductive Phase where
  | validated
  | gasComputed
  | executed
  | reverted
  | refunded
  | settled
deriving DecidableEq

structure Receipt where
  gasUsed : Gas
  /-- The price that was paid for a unit of gas. -/
  effectivePrice : Amount
  /-- The logs in the order of their emission. -/
  logs : List Log
  reverted : Bool
  /-- Why it failed; empty where it did not. -/
  vmError : String
  returnData : Bytes
  created : Option Address
  phases : List Phase
deriving DecidableEq

namespace Receipt

def phase (r : Receipt) : Option Phase := r.phases.getLast?

/-- The fee that the collector keeps. -/
def feePaid (r : Receipt) : Amount := r.effectivePrice.satMul r.gasUsed.widen

end Receipt

end EvmBank
