import EvmBank.Precompile.Call

/-!
A denomination as a token: balances are those of the ledger, and allowances are grants of the
owner to the spender, so that they end with the grant and keep to its list of recipients. A grant
that has expired counts as none.
-/

namespace EvmBank

inductive TokenMethod where
  | transfer
  | transferFrom
  | approve
  | increaseAllowance
  | decreaseAllowance
  | allowance
  | balanceOf
  | totalSupply
deriving DecidableEq

namespace TokenMethod

def all : List TokenMethod :=
  [transfer, transferFrom, approve, increaseAllowance, decreaseAllowance, allowance, balanceOf,
    totalSupply]

def selector : TokenMethod → Bytes
  | transfer => [0xa9, 0x05, 0x9c, 0xbb]
  | transferFrom => [0x23, 0xb8, 0x72, 0xdd]
  | approve => [0x09, 0x5e, 0xa7, 0xb3]
  | increaseAllowance => [0x39, 0x50, 0x93, 0x51]
  | decreaseAllowance => [0xa4, 0x57, 0xc2, 0xd7]
  | allowance => [0xdd, 0x62, 0xed, 0x3e]
  | balanceOf => [0x70, 0xa0, 0x82, 0x31]
  | totalSupply => [0x18, 0x16, 0x0d, 0xdd]

def ofSelector? (s : Bytes) : Option TokenMethod := all.find? fun m => m.selector = s

/-- Whether the method changes the ledger. -/
def isTransaction : TokenMethod → Bool
  | transfer | transferFrom | approve | increaseAllowance | decreaseAllowance => true
  | allowance | balanceOf | totalSupply => false

/-- The gas for a call with so many bytes of calldata. -/
def gas (m : TokenMethod) (length : Nat) : Gas :=
  if m.isTransaction then Quantity.clamp (30 * length + 2000)
  else Quantity.clamp (3 * length + 1000)

end TokenMethod

/-- A denomination that is seen as a token. -/
structure Token where
  address : Address
  denom : Denom
  /-- How long a grant lasts that a token creates. -/
  approvalSeconds : Seconds
deriving DecidableEq

namespace Token

def transferTopic : Hash := Digest.keccak256 (Bytes.ofText "Transfer(address,address,uint256)")

def approvalTopic : Hash := Digest.keccak256 (Bytes.ofText "Approval(address,address,uint256)")

/-- Emits a log about two accounts and an amount. -/
def emit (t : Token) (topic : Hash) (first second : Address) (amount : Amount) :
    LedgerAction Unit :=
  modify fun l =>
    l.addLog ⟨t.address, [topic, Hash.ofAddress first, Hash.ofAddress second], Abi.uintWord amount⟩

/-- The grant of an owner to a spender that has not expired. -/
def liveGrant? (l : Ledger) (owner spender : Address) (time : Seconds) : Option Grant :=
  (l.grant? owner spender).filter fun g => !g.isExpired time

/-- What a spender may still spend of an owner's coins. -/
def allowanceAt (t : Token) (l : Ledger) (owner spender : Address) (time : Seconds) : Amount :=
  match liveGrant? l owner spender time with
  | some g => g.limitFor t.denom
  | none => 0

def arguments {α : Type} (data : Bytes) (count : Nat) (reader : Abi.Reader α) : LedgerAction α :=
  match Abi.read data count reader with
  | .ok values => return values
  | .error cause => throw (.invalidInput cause)

/-- Stores the grant of an owner to a spender, or drops it where it has no limit left. -/
def storeGrant (owner spender : Address) (g : Grant) : LedgerAction Unit :=
  modify fun l => if g.spendLimit.isEmpty then l.revokeGrant owner spender else l.setGrant g

/-- Moves coins, and emits a log of it. -/
def moveFunds (t : Token) (source target : Address) (amount : Amount) : LedgerAction Unit := do
  let l ← get
  let available := l.balance source t.denom
  if available < amount then
    throw (.insufficientFunds amount available)
  match l.transfer source target t.denom amount with
  | .error cause => throw (.ledger cause)
  | .ok moved => set moved
  t.emit transferTopic source target amount

def transfer (t : Token) (call : PrecompileCall) (data : Bytes) : LedgerAction Bytes := do
  let (target, amount) ← arguments data 2 do return (← Abi.address, ← Abi.uint)
  t.moveFunds call.caller target amount
  return Abi.boolWord true

/-- Moves coins of another account, under its grant to the caller. -/
def transferFrom (t : Token) (call : PrecompileCall) (data : Bytes) : LedgerAction Bytes := do
  let (source, target, amount) ← arguments data 3 do
    return (← Abi.address, ← Abi.address, ← Abi.uint)
  if source = call.caller then
    t.moveFunds source target amount
    return Abi.boolWord true
  let some g := liveGrant? (← get) source call.caller call.time
    | throw (.unauthorized (.noGrant source call.caller))
  if !g.allows target then
    throw (.unauthorized (.recipientNotAllowed target))
  let limit := g.limitFor t.denom
  let some left := limit.sub? amount
    | throw (.unauthorized (.limitExceeded amount limit))
  t.moveFunds source target amount
  storeGrant source call.caller (g.setLimit t.denom left)
  return Abi.boolWord true

/-- Sets what a spender may spend of the caller's coins. Without a live grant, an amount of zero
clears what is left of an old one, and any other amount creates a new one. -/
def approve (t : Token) (call : PrecompileCall) (data : Bytes) : LedgerAction Bytes := do
  let (spender, amount) ← arguments data 2 do return (← Abi.address, ← Abi.uint)
  match liveGrant? (← get) call.caller spender call.time with
  | some g => storeGrant call.caller spender (g.setLimit t.denom amount)
  | none =>
    if amount.isZero then
      modify fun l => l.revokeGrant call.caller spender
    else
      let expiration := call.time.satAdd t.approvalSeconds
      modify fun l => l.setGrant (Grant.single call.caller spender t.denom amount (some expiration))
  t.emit approvalTopic call.caller spender amount
  return Abi.boolWord true

/-- Changes what a spender may spend of the caller's coins, under a live grant. -/
def adjustAllowance (t : Token) (call : PrecompileCall) (data : Bytes)
    (adjust : Amount → Amount → Option Amount) : LedgerAction Bytes := do
  let (spender, delta) ← arguments data 2 do return (← Abi.address, ← Abi.uint)
  let some g := liveGrant? (← get) call.caller spender call.time
    | throw (.unauthorized (.noAllowance call.caller spender))
  let some updated := adjust (g.limitFor t.denom) delta
    | throw .allowanceOverflow
  storeGrant call.caller spender (g.setLimit t.denom updated)
  t.emit approvalTopic call.caller spender updated
  return Abi.boolWord true

def runMethod (t : Token) (call : PrecompileCall) (data : Bytes) :
    TokenMethod → LedgerAction Bytes
  | .transfer => t.transfer call data
  | .transferFrom => t.transferFrom call data
  | .approve => t.approve call data
  | .increaseAllowance => t.adjustAllowance call data Quantity.add?
  | .decreaseAllowance => t.adjustAllowance call data Quantity.sub?
  | .allowance => do
    let (owner, spender) ← arguments data 2 do return (← Abi.address, ← Abi.address)
    return Abi.uintWord (t.allowanceAt (← get) owner spender call.time)
  | .balanceOf => do
    let account ← arguments data 1 Abi.address
    return Abi.uintWord ((← get).balance account t.denom)
  | .totalSupply => do
    arguments data 0 (return ())
    return Abi.uintWord ((← get).supply t.denom)

/-- Runs a call. The gas is checked before anything else that the call says. -/
def run (t : Token) (call : PrecompileCall) : LedgerAction PrecompileOutput := do
  match Abi.splitSelector call.input with
  | .error cause => throw (.invalidInput cause)
  | .ok (selector, data) =>
    let some m := TokenMethod.ofSelector? selector
      | throw (.unknownMethod selector)
    let gasUsed := m.gas call.input.length
    if call.gasLimit < gasUsed then
      throw .outOfGas
    if !call.value.isZero then
      throw .nonPayable
    if call.isStatic && m.isTransaction then
      throw .writeProtection
    let output ← t.runMethod call data m
    return { gasUsed, output }

end Token

end EvmBank
