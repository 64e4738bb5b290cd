import EvmBank.Quantity

/-!
Hard forks: the heights from which they are active, and the rules that hold in one block. A table
of forks as it is written may leave forks out; each of them is active from the height of the fork
before it.
-/

namespace EvmBank

/-- The forks that change a rule, in their order. -/
inductive Fork where
  | homestead
  | istanbul
  | berlin
  | london
  | shanghai
deriving DecidableEq

namespace Fork

def all : List Fork := [homestead, istanbul, berlin, london, shanghai]

def name : Fork → String
  | homestead => "homestead"
  | istanbul => "istanbul"
  | berlin => "berlin"
  | london => "london"
  | shanghai => "shanghai"

end Fork

/-- The height from which each fork is active; a fork without a height never is. -/
@[ext]
structure ForkSchedule where
  homestead : Option Height
  istanbul : Option Height
  berlin : Option Height
  london : Option Height
  shanghai : Option Height
deriving DecidableEq

/-- The rules in force in one block. -/
@[ext]
structure ChainRules where
  chainId : Quantity 64
  homestead : Bool
  istanbul : Bool
  berlin : Bool
  london : Bool
  shanghai : Bool
deriving DecidableEq

namespace ForkSchedule

def activation (s : ForkSchedule) : Fork → Option Height
  | .homestead => s.homestead
  | .istanbul => s.istanbul
  | .berlin => s.berlin
  | .london => s.london
  | .shanghai => s.shanghai

def allActive : ForkSchedule := ⟨some 0, some 0, some 0, some 0, some 0⟩

def frontier : ForkSchedule := ⟨none, none, none, none, none⟩

/-- Whether a fork with the height `later` comes too soon after one with the height `earlier`. -/
def isTooSoon : (earlier later : Option Height) → Bool
  | some earlier, some later => later < earlier
  | none, some _ => true
  | _, none => false

/-- The first two neighbours of which the later fork is active before the earlier one. -/
def firstDisorder (s : ForkSchedule) : Option (Fork × Fork) :=
  (Fork.all.zip Fork.all.tail).find? fun p => isTooSoon (s.activation p.1) (s.activation p.2)

def isActive (activation : Option Height) (height : Height) : Bool :=
  match activation with
  | some first => first ≤ height
  | none => false

def rules (s : ForkSchedule) (chainId : Quantity 64) (height : Height) : ChainRules where
  chainId
  homestead := isActive s.homestead height
  istanbul := isActive s.istanbul height
  berlin := isActive s.berlin height
  london := isActive s.london height
  shanghai := isActive s.shanghai height

end ForkSchedule

/-- What a table of forks says of one fork. -/
inductive ForkEntry where
  | leftOut
  | never
  | since (height : Height)
deriving DecidableEq

/-- The height that an entry stands for, after a fork with the height `previous`. -/
def ForkEntry.resolve (previous : Option Height) : ForkEntry → Option Height
  | .leftOut => previous
  | .never => none
  | .since height => some height

structure ForkTable where
  homestead : ForkEntry
  istanbul : ForkEntry
  berlin : ForkEntry
  london : ForkEntry
  shanghai : ForkEntry
deriving DecidableEq

/-- The schedule that a table stands for; before the first fork comes the first block. -/
def ForkTable.resolve (t : ForkTable) : ForkSchedule :=
  let homestead := t.homestead.resolve (some 0)
  let istanbul := t.istanbul.resolve homestead
  let berlin := t.berlin.resolve istanbul
  let london := t.london.resolve berlin
  let shanghai := t.shanghai.resolve london
  { homestead, istanbul, berlin, london, shanghai }

/-- At most the gas used divided by this number is refunded. -/
def ChainRules.refundQuotient (r : ChainRules) : Quantity 64 := if r.london then 5 else 2

end EvmBank
