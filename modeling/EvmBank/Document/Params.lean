import EvmBank.Document.Scalar
import EvmBank.Genesis
import EvmBank.Json.Parser

/-!
Parameters and first states as documents. What is left out of the parameters has its standard
value, and a fork that is left out is active from the height of the fork before it.
-/

namespace EvmBank

open Json (Dialect)

namespace ForkSchedule

def toJson (s : ForkSchedule) : Json :=
  .ofMembers (Fork.all.map fun f => (f.name, Json.ofOption Quantity.toJson (s.activation f)))

end ForkSchedule

namespace ForkTable

/-- What a table says of a fork where it says something: a height, or `null` for never. -/
def entryOfJson? (v : Json) : Option ForkEntry :=
  (Json.nullable? Json.quantity? v).map fun
    | some height => .since height
    | none => .never

def ofJson? (d : Dialect) (v : Json) : Option ForkTable := do
  let r ← v.record? d 5
  return {
    homestead := ← r.optional? 0 "homestead" entryOfJson? .leftOut
    istanbul := ← r.optional? 1 "istanbul" entryOfJson? .leftOut
    berlin := ← r.optional? 2 "berlin" entryOfJson? .leftOut
    london := ← r.optional? 3 "london" entryOfJson? .leftOut
    shanghai := ← r.optional? 4 "shanghai" entryOfJson? .leftOut }

end ForkTable

def ForkSchedule.ofJson? (d : Dialect) (v : Json) : Option ForkSchedule :=
  (ForkTable.ofJson? d v).map ForkTable.resolve

namespace GasMultiplier

def toJson (m : GasMultiplier) : Json :=
  .ofMembers [("numerator", m.numerator.toJson), ("denominator", m.denominator.toJson)]

def ofJson? (d : Dialect) (v : Json) : Option GasMultiplier := do
  let r ← v.record? d 2
  return ⟨← r.required? 0 "numerator" Json.quantity?, ← r.required? 1 "denominator" Json.quantity?⟩

end GasMultiplier

namespace AccessPolicy

def toJson : AccessPolicy → Json
  | permissionless => .ofString "permissionless"
  | restricted => .ofString "restricted"
  | permissioned allowed => .ofMembers [("permissioned", .ofList Address.toJson allowed)]

/-- The policies that have nothing beside their name. -/
def ofName? (name : String) : Option AccessPolicy :=
  if name = "permissionless" then some permissionless
  else if name = "restricted" then some restricted
  else none

def ofJson? (d : Dialect) : Json → Option AccessPolicy :=
  Json.choice? ofName? fun name v =>
    if name = "permissioned" then (v.list? Address.ofJson?).map permissioned
    else if d.isUnit v then ofName? name
    else none

end AccessPolicy

namespace AccessControl

def toJson (c : AccessControl) : Json :=
  .ofMembers [("call", c.call.toJson), ("create", c.create.toJson)]

def ofJson? (d : Dialect) (v : Json) : Option AccessControl := do
  let r ← v.record? d 2
  return ⟨← r.optional? 0 "call" (AccessPolicy.ofJson? d) unrestricted.call,
    ← r.optional? 1 "create" (AccessPolicy.ofJson? d) unrestricted.create⟩

end AccessControl

namespace TokenListing

def toJson (t : TokenListing) : Json :=
  .ofMembers [("enable_erc20", .bool t.enabled),
    ("native_precompiles", .ofList Address.toJson t.native),
    ("dynamic_precompiles", .ofList Address.toJson t.dynamic)]

def ofJson? (d : Dialect) (v : Json) : Option TokenListing := do
  let r ← v.record? d 3
  return {
    enabled := ← r.optional? 0 "enable_erc20" Json.bool? standard.enabled
    native := ← r.optional? 1 "native_precompiles" (Json.list? Address.ofJson?) standard.native
    dynamic := ← r.optional? 2 "dynamic_precompiles" (Json.list? Address.ofJson?) standard.dynamic }

end TokenListing

namespace Params

def toJson (p : Params) : Json :=
  .ofMembers [("evm_denom", .ofString p.evmDenom), ("forks", p.forks.toJson),
    ("fee_collector", p.feeCollector.toJson), ("min_gas_multiplier", p.minGasMultiplier.toJson),
    ("access_control", p.accessControl.toJson),
    ("approval_expiration_secs", p.approvalSeconds.toJson), ("erc20", p.tokens.toJson)]

def ofJson? (d : Dialect) (v : Json) : Option Params := do
  let r ← v.record? d 7
  return {
    evmDenom := ← r.optional? 0 "evm_denom" Json.text? standard.evmDenom
    forks := ← r.optional? 1 "forks" (ForkSchedule.ofJson? d) standard.forks
    feeCollector := ← r.optional? 2 "fee_collector" Address.ofJson? standard.feeCollector
    minGasMultiplier :=
      ← r.optional? 3 "min_gas_multiplier" (GasMultiplier.ofJson? d) standard.minGasMultiplier
    accessControl := ← r.optional? 4 "access_control" (AccessControl.ofJson? d) standard.accessControl
    approvalSeconds :=
      ← r.optional? 5 "approval_expiration_secs" Json.quantity? standard.approvalSeconds
    tokens := ← r.optional? 6 "erc20" (TokenListing.ofJson? d) standard.tokens }

def toText (p : Params) : String := p.toJson.toText

/-- Valid parameters from a document that was read. -/
def ofDocument (d : Dialect) (document : Option Json) : Except ConfigError Params := do
  let some p := document.bind (ofJson? d)
    | throw .parse
  p.validate
  return p

/-- Reads parameters from a JSON text, and refuses those with a flaw. -/
def ofText (s : String) : Except ConfigError Params := ofDocument Json.dialect (Json.parse? s)

end Params

namespace OwnerKind

def name : OwnerKind → String
  | module => "module"
  | external => "external"

def toJson (k : OwnerKind) : Json := .ofString k.name

def ofName? (s : String) : Option OwnerKind := [module, external].find? fun k => k.name = s

def ofJson? : Json → Option OwnerKind := Json.enumeration? Json.dialect ofName?

end OwnerKind

namespace TokenPair

def toJson (p : TokenPair) : Json :=
  .ofMembers [("address", p.address.toJson), ("denom", .ofString p.denom),
    ("enabled", .bool p.enabled), ("owner", p.owner.toJson)]

/-- A pair is enabled unless something else is said. -/
def ofJson? (v : Json) : Option TokenPair := do
  let r ← v.record? Json.dialect 4
  return {
    address := ← r.required? 0 "address" Address.ofJson?
    denom := ← r.required? 1 "denom" Json.text?
    enabled := ← r.optional? 2 "enabled" Json.bool? true
    owner := ← r.required? 3 "owner" OwnerKind.ofJson? }

end TokenPair

namespace Registry

def toJson (r : Registry) : Json := .ofList TokenPair.toJson r.toList

def ofJson? (v : Json) : Option Registry :=
  (v.list? TokenPair.ofJson?).bind fun pairs => (ofList pairs).toOption

def toText (r : Registry) : String := r.toJson.toText

def ofText? (s : String) : Option Registry := (Json.parse? s).bind ofJson?

end Registry

namespace Genesis

def toJson (g : Genesis) : Json :=
  .ofMembers [("params", g.tokens.toJson), ("token_pairs", .ofList TokenPair.toJson g.pairs)]

def ofJson? (v : Json) : Option Genesis := do
  let r ← v.record? Json.dialect 2
  return {
    tokens := ← r.optional? 0 "params" (TokenListing.ofJson? Json.dialect) .standard
    pairs := ← r.optional? 1 "token_pairs" (Json.list? TokenPair.ofJson?) [] }

def toText (g : Genesis) : String := g.toJson.toText

/-- Reads a first state from a text, and refuses one whose lists and pairs do not agree. -/
def ofText (s : String) : Except GenesisError Genesis := do
  let some g := (Json.parse? s).bind ofJson?
    | throw .parse
  let _ ← g.parts
  return g

end Genesis

end EvmBank
