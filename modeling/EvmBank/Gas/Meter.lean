import EvmBank.Fault

/-!
The host's gas meter of one message. It may carry charges when the message arrives; at the end it
is set to the gas of the message, and never back.
-/

namespace EvmBank

structure Meter where
  limit : Gas
  consumed : Gas
deriving DecidableEq

namespace Meter

def ofLimit (limit : Gas) : Meter := ⟨limit, 0⟩

def unlimited : Meter := ofLimit Quantity.greatest

def remaining (m : Meter) : Gas := m.limit.satSub m.consumed

/-- The meter after a charge, if its limit admits that. -/
def charge? (m : Meter) (amount : Gas) : Option Meter :=
  match m.consumed.add? amount with
  | some total => if total ≤ m.limit then some { m with consumed := total } else none
  | none => none

/-- The meter that shows exactly `total`. -/
def reconcile (m : Meter) (total : Gas) : Except Fault Meter :=
  if total < m.consumed then .error (.meterBackwards m.consumed total)
  else if m.limit < total then .error (.meterOverflow total m.limit)
  else .ok { m with consumed := total }

end Meter

end EvmBank
