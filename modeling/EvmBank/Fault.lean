import EvmBank.Quantity

/-!
Broken accounts. A fault is not an error of a message: it stops the program, since going on would
let two nodes disagree on their books.
-/

namespace EvmBank

/-- A way in which the books of gas can contradict themselves. -/
inductive Fault where
  | meterBackwards (consumed reconciled : Gas)
  | meterOverflow (reconciled limit : Gas)
  | zeroRefundQuotient
  | negativeGas
deriving DecidableEq

def Fault.message : Fault → String
  | meterBackwards consumed reconciled =>
    s!"gas meter reconciliation would go backwards: consumed {consumed}, reconciled {reconciled}"
  | meterOverflow reconciled limit =>
    s!"gas meter overflow: reconciled {reconciled} exceeds limit {limit}"
  | zeroRefundQuotient => "refund quotient cannot be zero"
  | negativeGas => "attempt to subtract with overflow"

end EvmBank
