import EvmBank.Quantity

/-!
The least gas that a message is charged: a share of its gas limit, rounded up.
-/

namespace EvmBank

/-- A share of the gas limit. -/
structure GasMultiplier where
  numerator : Quantity 64
  denominator : Quantity 64
deriving DecidableEq

namespace GasMultiplier

def disabled : GasMultiplier := ⟨0, 1⟩

def half : GasMultiplier := ⟨1, 2⟩

def isDisabled (m : GasMultiplier) : Bool := m.numerator.isZero

/-- The share of a gas limit, rounded up, if it fits in 64 bits. A denominator of zero stands for
no gas at all. -/
def floor? (m : GasMultiplier) (limit : Gas) : Option Gas :=
  if m.isDisabled || m.denominator.isZero then some 0
  else
    Quantity.ofNat? <|
      (limit.toNat * m.numerator.toNat + (m.denominator.toNat - 1)) / m.denominator.toNat

end GasMultiplier

end EvmBank
