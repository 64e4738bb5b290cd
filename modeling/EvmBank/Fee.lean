import EvmBank.Quantity

/-!
What a message pays for a unit of gas.
-/

namespace EvmBank

/-- The fee terms of a message: a price, or a cap and a tip on top of the base fee of the block. -/
inductive FeeTerms where
  | legacy (gasPrice : Amount)
  | dynamic (feeCap tipCap : Amount)
deriving DecidableEq

structure NegativePrice where
  price : Int
deriving DecidableEq

namespace FeeTerms

def free : FeeTerms := .legacy 0

/-- Legacy terms with a price that was read as a signed number. -/
def ofSigned (price : Int) : Except NegativePrice FeeTerms :=
  if price < 0 then .error ⟨price⟩ else .ok (.legacy (Quantity.clamp price.toNat))

/-- The price that is paid. The sum of base fee and tip stops at the greatest amount, which is no
less than any cap. -/
def effectivePrice (terms : FeeTerms) (baseFee : Option Amount) : Amount :=
  match terms, baseFee with
  | .legacy price, _ => price
  | .dynamic feeCap tipCap, some base => min feeCap (base.satAdd tipCap)
  | .dynamic feeCap _, none => feeCap

/-- The highest price that may be paid. A legacy price is its own cap. -/
def cap : FeeTerms → Amount
  | .legacy price => price
  | .dynamic feeCap _ => feeCap

def isDynamic : FeeTerms → Bool
  | .legacy _ => false
  | .dynamic _ _ => true

end FeeTerms

end EvmBank
