import EvmBank.Address
import EvmBank.Denom
import EvmBank.SortedMap

/-!
Grants: the leave that one account gives another to spend its coins, up to a limit for each
denomination.
-/

namespace EvmBank

structure Grant where
  /-- Whose coins may be spent. -/
  granter : Address
  /-- Who may spend them. -/
  grantee : Address
  /-- What may still be spent of each denomination. -/
  spendLimit : SortedMap Denom Amount
  /-- Who may receive the coins; an empty list stands for anyone. -/
  allowList : List Address
  /-- The last second of the grant, if it has one. -/
  expiration : Option Seconds
deriving DecidableEq

namespace Grant

def parties (g : Grant) : Address × Address := (g.granter, g.grantee)

/-- A grant of one denomination, to be spent on anyone. -/
def single (granter grantee : Address) (denom : Denom) (limit : Amount)
    (expiration : Option Seconds) : Grant :=
  ⟨granter, grantee, SortedMap.empty.insert denom limit, [], expiration⟩

/-- A grant holds up to and including its last second. -/
def isExpired (g : Grant) (time : Seconds) : Bool :=
  match g.expiration with
  | some last => last < time
  | none => false

def limitFor (g : Grant) (denom : Denom) : Amount := g.spendLimit.getD denom 0

/-- Whether coins may be spent on `recipient`. -/
def allows (g : Grant) (recipient : Address) : Bool :=
  g.allowList.isEmpty || g.allowList.contains recipient

/-- The grant with another limit; a limit of zero drops the denomination. -/
def setLimit (g : Grant) (denom : Denom) (limit : Amount) : Grant :=
  let spendLimit :=
    if limit.isZero then g.spendLimit.erase denom else g.spendLimit.insert denom limit
  { g with spendLimit }

/-- Whether nothing may be spent any more. -/
def isExhausted (g : Grant) : Bool := g.spendLimit.values.all Quantity.isZero

end Grant

end EvmBank
