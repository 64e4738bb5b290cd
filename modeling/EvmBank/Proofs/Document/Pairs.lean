import EvmBank.Document.Params
import EvmBank.Proofs.Document.Scalar
import EvmBank.Proofs.Registry.Bijection

/-!
# Registries saved and loaded

Each part of a token pair is found under its own name (`TokenPair.ofJson?_toJson`). A registry is
written as the list of its pairs, and is loaded as the registry that it was
(`Registry.Bijective.ofText?_toText`): reading undoes writing, and the list of a registry makes it up
again.
-/

namespace EvmBank

theorem OwnerKind.ofJson?_toJson (k : OwnerKind) : ofJson? k.toJson = some k := by
  cases k with
  | module => decide
  | external => decide

namespace TokenPair

theorem ofJson?_toJson (p : TokenPair) : ofJson? p.toJson = some p := by
  simp [toJson, ofJson?, Json.record?_ofMembers, Json.Record.required?, Json.Record.optional?,
    Json.Record.entry?, Json.ofString, Json.text?, Json.bool?, Address.ofJson?_toJson,
    OwnerKind.ofJson?_toJson]

theorem plain_toJson (p : TokenPair) : p.toJson.Plain := by
  refine .object ?_
  simp only [List.forall_mem_cons]
  exact ⟨.text _, .text _, .bool _, .text _, List.forall_mem_nil _⟩

end TokenPair

namespace Registry

variable {r : Registry}

theorem plain_toJson (r : Registry) : r.toJson.Plain :=
  .ofList TokenPair.plain_toJson r.toList

/-- A registry that was saved is loaded as it was. -/
theorem Bijective.ofText?_toText (hr : r.Bijective) : ofText? r.toText = some r := by
  rw [ofText?, toText, (plain_toJson r).parse?_toText, Option.bind_some, ofJson?, toJson,
    Json.list?_ofList fun p _ => p.ofJson?_toJson, Option.bind_some, hr.ofList_toList]
  rfl

end Registry

end EvmBank
