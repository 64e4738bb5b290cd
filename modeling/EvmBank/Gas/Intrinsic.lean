import EvmBank.Fork
import EvmBank.Message

/-!
The gas that a message costs before anything is executed: a base, and charges for the bytes of the
payload, the code to deploy and the access list. Every step is checked, so that a cost that does
not fit in 64 bits is an error and never a smaller number.
-/

namespace EvmBank

/-- What the intrinsic gas is charged for, beside the base. -/
inductive GasItem where
  | nonZeroBytes
  | zeroBytes
  | initCodeWords
  | accessAddresses
  | accessKeys
deriving DecidableEq

def GasItem.label : GasItem → String
  | nonZeroBytes => "non-zero payload bytes"
  | zeroBytes => "zero payload bytes"
  | initCodeWords => "init code words"
  | accessAddresses => "access list addresses"
  | accessKeys => "access list storage keys"

/-- The intrinsic gas exceeds 64 bits when `item` is added. -/
structure IntrinsicGasError where
  item : GasItem
deriving DecidableEq

def IntrinsicGasError.message (e : IntrinsicGasError) : String :=
  "intrinsic gas overflow while adding " ++ e.item.label

/-- The most bytes that deployed code may have. -/
def maxCodeSize : Nat := 24576

/-- The most bytes that the code of a creation may have. -/
def maxInitCodeSize : Nat := 2 * maxCodeSize

def codeDepositGas (count : Nat) : Gas := Quantity.clamp (count * 200)

def addCharge (gas : Gas) (count unit : Nat) (item : GasItem) : Except IntrinsicGasError Gas :=
  match Quantity.ofNat? (gas.toNat + count * unit) with
  | some total => .ok total
  | none => .error ⟨item⟩

/-- The gas before the payload and the access list are charged. -/
def baseGas (creation : Bool) (rules : ChainRules) : Gas :=
  if creation && rules.homestead then 53000 else 21000

def addPayload (gas : Gas) (payload : Bytes) (creation : Bool) (rules : ChainRules) :
    Except IntrinsicGasError Gas := do
  let nonZero := payload.countP (· ≠ 0)
  let gas ← addCharge gas nonZero (if rules.istanbul then 16 else 68) .nonZeroBytes
  let gas ← addCharge gas (payload.length - nonZero) 4 .zeroBytes
  if creation && rules.shanghai then
    addCharge gas ((payload.length + 31) / 32) 2 .initCodeWords
  else
    return gas

def keyCount : List AccessTuple → Nat
  | [] => 0
  | t :: rest => t.storageKeys.length + keyCount rest

/-- Charges the access list. The number of keys has to fit before the addresses are charged. -/
def addAccessList (gas : Gas) (accessList : List AccessTuple) : Except IntrinsicGasError Gas := do
  let keys := keyCount accessList
  if (Quantity.ofNat? keys : Option Gas).isNone then
    .error ⟨.accessKeys⟩
  let gas ← addCharge gas accessList.length 2400 .accessAddresses
  addCharge gas keys 1900 .accessKeys

/-- The gas that a message costs before anything is executed. -/
def intrinsicGas (payload : Bytes) (accessList : List AccessTuple) (creation : Bool)
    (rules : ChainRules) : Except IntrinsicGasError Gas := do
  addAccessList (← addPayload (baseGas creation rules) payload creation rules) accessList

end EvmBank
