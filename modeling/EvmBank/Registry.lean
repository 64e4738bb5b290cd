import EvmBank.Address
import EvmBank.Denom
import EvmBank.SortedMap

/-!
Token pairs: which denomination is seen at which contract address. The registry is kept by
denomination, with an index by address; a denomination and an address are bound at most once.
`Registry.register` and `Registry.toggle` answer with the changed registry; `RegistryAction` makes the same
changes in place, one view after the other.
-/

namespace EvmBank

/-- Who stands behind the coin of a token pair. -/
inductive OwnerKind where
  /-- The host itself; the pair is listed as native. -/
  | module
  /-- Somebody else; the pair is listed as dynamic. -/
  | external
deriving DecidableEq

def OwnerKind.label : OwnerKind → String
  | module => "native"
  | external => "dynamic"

/-- A denomination and the contract address at which it is seen. -/
structure TokenPair where
  address : Address
  denom : Denom
  /-- Whether contracts can be called at the address. -/
  enabled : Bool
  owner : OwnerKind
deriving DecidableEq

/-- Why the registry refuses a pair or does not know a key, or why precompiles cannot be built
from it. -/
inductive RegistryError where
  | duplicateDenom (denom : Denom)
  | duplicateAddress (address : Address)
  | invalidDenom (denom : Denom)
  | zeroAddress
  | notFound (key : String)
  | unregisteredPrecompile (address : Address)
  | duplicatePrecompile (address : Address)
  | ownerMismatch (address : Address) (listed registered : OwnerKind)
deriving DecidableEq

def RegistryError.message : RegistryError → String
  | duplicateDenom denom => s!"token pair for denom {denom} already registered"
  | duplicateAddress address => s!"token pair for address {address} already registered"
  | invalidDenom denom => s!"invalid denom: {denom}"
  | zeroAddress => "token pair address cannot be zero"
  | notFound key => s!"token pair not found: {key}"
  | unregisteredPrecompile address => s!"precompile {address} has no registered token pair"
  | duplicatePrecompile address => s!"precompile {address} listed more than once"
  | ownerMismatch address listed registered =>
    let named := listed.label
    let known := registered.label
    s!"precompile {address} listed as {named} but registered as {known}"

structure Registry where
  pairs : SortedMap Denom TokenPair
  denoms : SortedMap Address Denom
deriving DecidableEq

namespace Registry

def empty : Registry := ⟨.empty, .empty⟩

instance : Inhabited Registry := ⟨empty⟩

/-- Adds a pair. The denomination is checked before the address, and that each is valid before
that it is free. -/
def register (r : Registry) (pair : TokenPair) : Except RegistryError Registry :=
  if !Denom.isValid pair.denom then .error (.invalidDenom pair.denom)
  else if pair.address.isZero then .error .zeroAddress
  else if r.pairs.contains pair.denom then .error (.duplicateDenom pair.denom)
  else if r.denoms.contains pair.address then .error (.duplicateAddress pair.address)
  else .ok ⟨r.pairs.insert pair.denom pair, r.denoms.insert pair.address pair.denom⟩

def lookup (r : Registry) (denom : Denom) : Option TokenPair := r.pairs.get? denom

def lookupAddress (r : Registry) (a : Address) : Option TokenPair :=
  (r.denoms.get? a).bind r.pairs.get?

/-- The pair that a key names: by its address, if the key is one with a mark `0x`, and otherwise
by its denomination. -/
def find? (r : Registry) (key : String) : Option TokenPair :=
  match Address.ofHex key with
  | .ok a => if (Bytes.ofText key).take 2 = [48, 120] then r.lookupAddress a else r.lookup key
  | .error _ => r.lookup key

def get (r : Registry) (key : String) : Except RegistryError TokenPair :=
  match r.find? key with
  | some pair => .ok pair
  | none => .error (.notFound key)

/-- Enables or disables the pair that a key names, and shows it. -/
def toggle (r : Registry) (key : String) : Except RegistryError (TokenPair × Registry) := do
  let named ← r.get key
  match r.pairs.get? named.denom with
  | none => .error (.notFound key)
  | some pair =>
    let pair := { pair with enabled := !pair.enabled }
    .ok (pair, { r with pairs := r.pairs.insert named.denom pair })

/-- The pairs in the order of their denominations. -/
def toList (r : Registry) : List TokenPair := r.pairs.values

/-- A registry of the given pairs, added in their order. -/
def ofList (pairs : List TokenPair) : Except RegistryError Registry :=
  pairs.foldlM register empty

def size (r : Registry) : Nat := r.pairs.size

def isEmpty (r : Registry) : Bool := r.pairs.isEmpty

end Registry

/-! ## Changes in place -/

/-- The pair with its flag the other way. -/
def TokenPair.toggled (p : TokenPair) : TokenPair := { p with enabled := !p.enabled }

/-- What changes a registry in place, and may fail on the way. -/
abbrev RegistryAction := ExceptT RegistryError (StateM Registry)

namespace RegistryAction

/-- Registers a pair in the view by addresses, and then in the other. -/
def register (pair : TokenPair) : RegistryAction Unit := do
  let r ← get
  if !Denom.isValid pair.denom then throw (.invalidDenom pair.denom)
  else if pair.address.isZero then throw .zeroAddress
  else if r.pairs.contains pair.denom then throw (.duplicateDenom pair.denom)
  else if r.denoms.contains pair.address then throw (.duplicateAddress pair.address)
  else
    modify fun r => { r with denoms := r.denoms.insert pair.address pair.denom }
    modify fun r => { r with pairs := r.pairs.insert pair.denom pair }

/-- Toggles the pair that a key names. -/
def toggle (key : String) : RegistryAction TokenPair := do
  let some named := (← get).find? key
    | throw (.notFound key)
  let some pair := (← get).lookup named.denom
    | throw (.notFound key)
  modify fun r => { r with pairs := r.pairs.insert named.denom pair.toggled }
  return pair.toggled

end RegistryAction

end EvmBank
