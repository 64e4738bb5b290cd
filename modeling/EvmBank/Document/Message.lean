import EvmBank.Document.Scalar
import EvmBank.Grant
import EvmBank.Header.Store
import EvmBank.Json.Parser
import EvmBank.Message
import EvmBank.Receipt

/-!
Messages, blocks, headers, grants and receipts as documents. Every field has to be there, except
that those which may be `null` may also be left out.
-/

namespace EvmBank

open Json (Dialect)

namespace AccessTuple

def toJson (t : AccessTuple) : Json :=
  .ofMembers [("address", t.address.toJson), ("storage_keys", .ofList Hash.toJson t.storageKeys)]

def ofJson? (v : Json) : Option AccessTuple := do
  let r ← v.record? Json.dialect 2
  return ⟨← r.required? 0 "address" Address.ofJson?,
    ← r.required? 1 "storage_keys" (Json.list? Hash.ofJson?)⟩

end AccessTuple

namespace FeeTerms

def toJson : FeeTerms → Json
  | legacy gasPrice => .ofMembers [("Legacy", .ofMembers [("gas_price", Amount.toJson gasPrice)])]
  | dynamic feeCap tipCap =>
    .ofMembers [("Dynamic",
      .ofMembers [("fee_cap", Amount.toJson feeCap), ("tip_cap", Amount.toJson tipCap)])]

def ofContent? (name : String) (v : Json) : Option FeeTerms :=
  if name = "Legacy" then do
    let r ← v.record? Json.dialect 1
    return .legacy (← r.required? 0 "gas_price" Amount.ofJson?)
  else if name = "Dynamic" then do
    let r ← v.record? Json.dialect 2
    return .dynamic (← r.required? 0 "fee_cap" Amount.ofJson?)
      (← r.required? 1 "tip_cap" Amount.ofJson?)
  else none

def ofJson? : Json → Option FeeTerms := Json.choice? (fun _ => none) ofContent?

end FeeTerms

namespace Message

def toJson (m : Message) : Json :=
  .ofMembers [("from", m.sender.toJson), ("to", .ofOption Address.toJson m.recipient),
    ("value", Amount.toJson m.value), ("data", m.data.toJson), ("gas_limit", m.gasLimit.toJson),
    ("fee", m.fee.toJson), ("nonce", m.nonce.toJson),
    ("access_list", .ofList AccessTuple.toJson m.accessList)]

def ofJson? (v : Json) : Option Message := do
  let r ← v.record? Json.dialect 8
  return {
    sender := ← r.required? 0 "from" Address.ofJson?
    recipient := ← r.nullable? 1 "to" Address.ofJson?
    value := ← r.required? 2 "value" Amount.ofJson?
    data := ← r.required? 3 "data" Bytes.ofJson?
    gasLimit := ← r.required? 4 "gas_limit" Json.quantity?
    fee := ← r.required? 5 "fee" FeeTerms.ofJson?
    nonce := ← r.required? 6 "nonce" Json.quantity?
    accessList := ← r.required? 7 "access_list" (Json.list? AccessTuple.ofJson?) }

end Message

namespace Block

def toJson (b : Block) : Json :=
  .ofMembers [("height", b.height.toJson), ("time", b.time.toJson), ("proposer", b.proposer.toJson),
    ("chain_id", b.chainId.toJson), ("base_fee", .ofOption Amount.toJson b.baseFee),
    ("header_hash", .ofOption Hash.toJson b.headerHash),
    ("header", .ofOption Bytes.toJson b.rawHeader)]

def ofJson? (v : Json) : Option Block := do
  let r ← v.record? Json.dialect 7
  return {
    height := ← r.required? 0 "height" Json.quantity?
    time := ← r.required? 1 "time" Json.quantity?
    proposer := ← r.required? 2 "proposer" Bytes.ofJson?
    chainId := ← r.required? 3 "chain_id" Json.quantity?
    baseFee := ← r.nullable? 4 "base_fee" Amount.ofJson?
    headerHash := ← r.nullable? 5 "header_hash" Hash.ofJson?
    rawHeader := ← r.nullable? 6 "header" Bytes.ofJson? }

end Block

namespace Header

def toJson (h : Header) : Json :=
  .ofMembers [("chain_id", .ofString h.chainId), ("height", h.height.toJson),
    ("time", h.time.toJson), ("proposer", h.proposer.toJson),
    ("parent_hash", h.parentHash.toJson), ("app_hash", h.appHash.toJson)]

def ofJson? (v : Json) : Option Header := do
  let r ← v.record? Json.dialect 6
  return {
    chainId := ← r.required? 0 "chain_id" Json.text?
    height := ← r.required? 1 "height" Json.quantity?
    time := ← r.required? 2 "time" Json.quantity?
    proposer := ← r.required? 3 "proposer" Bytes.ofJson?
    parentHash := ← r.required? 4 "parent_hash" Hash.ofJson?
    appHash := ← r.required? 5 "app_hash" Hash.ofJson? }

end Header

namespace StoredHeader

def toJson (h : StoredHeader) : Json :=
  .ofMembers [("height", h.height.toJson), ("hash", h.hash.toJson), ("header", h.raw.toJson)]

def ofJson? (v : Json) : Option StoredHeader := do
  let r ← v.record? Json.dialect 3
  return ⟨← r.required? 0 "height" Json.quantity?, ← r.required? 1 "hash" Hash.ofJson?,
    ← r.required? 2 "header" Bytes.ofJson?⟩

end StoredHeader

namespace Log

def toJson (l : Log) : Json :=
  .ofMembers [("address", l.address.toJson), ("topics", .ofList Hash.toJson l.topics),
    ("data", l.data.toJson)]

def ofJson? (v : Json) : Option Log := do
  let r ← v.record? Json.dialect 3
  return ⟨← r.required? 0 "address" Address.ofJson?,
    ← r.required? 1 "topics" (Json.list? Hash.ofJson?), ← r.required? 2 "data" Bytes.ofJson?⟩

end Log

namespace Phase

def name : Phase → String
  | validated => "Validated"
  | gasComputed => "GasComputed"
  | executed => "Executed"
  | reverted => "Reverted"
  | refunded => "Refunded"
  | settled => "Settled"

def all : List Phase := [validated, gasComputed, executed, reverted, refunded, settled]

def toJson (p : Phase) : Json := .ofString p.name

def ofName? (s : String) : Option Phase := all.find? fun p => p.name = s

def ofJson? : Json → Option Phase := Json.enumeration? Json.dialect ofName?

end Phase

namespace Receipt

def toJson (r : Receipt) : Json :=
  .ofMembers [("gas_used", r.gasUsed.toJson),
    ("effective_gas_price", Amount.toJson r.effectivePrice), ("logs", .ofList Log.toJson r.logs),
    ("reverted", .bool r.reverted), ("vm_error", .ofString r.vmError),
    ("return_data", r.returnData.toJson), ("contract_address", .ofOption Address.toJson r.created),
    ("phases", .ofList Phase.toJson r.phases)]

def ofJson? (v : Json) : Option Receipt := do
  let r ← v.record? Json.dialect 8
  return {
    gasUsed := ← r.required? 0 "gas_used" Json.quantity?
    effectivePrice := ← r.required? 1 "effective_gas_price" Amount.ofJson?
    logs := ← r.required? 2 "logs" (Json.list? Log.ofJson?)
    reverted := ← r.required? 3 "reverted" Json.bool?
    vmError := ← r.required? 4 "vm_error" Json.text?
    returnData := ← r.required? 5 "return_data" Bytes.ofJson?
    created := ← r.nullable? 6 "contract_address" Address.ofJson?
    phases := ← r.required? 7 "phases" (Json.list? Phase.ofJson?) }

end Receipt

namespace Grant

def toJson (g : Grant) : Json :=
  .ofMembers [("granter", g.granter.toJson), ("grantee", g.grantee.toJson),
    ("spend_limit", .ofMembers (g.spendLimit.entries.map fun e => (e.1, Amount.toJson e.2))),
    ("allow_list", .ofList Address.toJson g.allowList),
    ("expiration", .ofOption Quantity.toJson g.expiration)]

def ofJson? (v : Json) : Option Grant := do
  let r ← v.record? Json.dialect 5
  return {
    granter := ← r.required? 0 "granter" Address.ofJson?
    grantee := ← r.required? 1 "grantee" Address.ofJson?
    spendLimit :=
      SortedMap.ofList (← r.required? 2 "spend_limit" (Json.entries? Amount.ofJson?))
    allowList := ← r.required? 3 "allow_list" (Json.list? Address.ofJson?)
    expiration := ← r.nullable? 4 "expiration" Json.quantity? }

end Grant

end EvmBank
