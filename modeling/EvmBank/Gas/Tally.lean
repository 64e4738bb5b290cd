import EvmBank.Fault

/-!
The gas of one message while it is applied: what was charged, and what is to be refunded.
-/

namespace EvmBank

structure GasTally where
  limit : Gas
  used : Gas
  refund : Gas
deriving DecidableEq

/-- The refund that is granted: what was asked for, up to the gas used divided by `quotient`. -/
def grantedRefund (asked used quotient : Gas) : Except Fault Gas :=
  if quotient = 0 then .error .zeroRefundQuotient else .ok (min asked (used.div quotient))

namespace GasTally

def ofLimit (limit : Gas) : GasTally := ⟨limit, 0, 0⟩

def remaining (t : GasTally) : Gas := t.limit.satSub t.used

/-- The tally after a charge, if the limit admits that. -/
def charge? (t : GasTally) (amount : Gas) : Option GasTally :=
  match t.used.add? amount with
  | some total => if total ≤ t.limit then some { t with used := total } else none
  | none => none

/-- The tally after a charge, or the same where the limit does not admit it. -/
def charge (t : GasTally) (amount : Gas) : GasTally := (t.charge? amount).getD t

/-- Asks for a refund, beside what was asked for before. -/
def addRefund (t : GasTally) (amount : Gas) : GasTally := { t with refund := t.refund.satAdd amount }

/-- Takes the granted refund off the gas used. -/
def settleRefund (t : GasTally) (quotient : Gas) : Except Fault GasTally := do
  let refund ← grantedRefund t.refund t.used quotient
  match t.used.sub? refund with
  | some used => .ok { t with used, refund }
  | none => .error .negativeGas

/-- At least `floor` is charged, but never more than the limit. -/
def applyFloor (t : GasTally) (floor : Gas) : GasTally :=
  { t with used := max t.used (min floor t.limit) }

end GasTally

end EvmBank
