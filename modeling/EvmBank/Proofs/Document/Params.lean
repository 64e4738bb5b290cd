import EvmBank.Document.Params
import EvmBank.Proofs.Document.Scalar

/-!
# Parameters saved and loaded

Each section of the parameters is read as it was written, from documents of every format
(`Params.ofJson?_toJson`). A schedule is written with an entry for every fork, `null` for one that is
never active, so the table that is read from it leaves nothing out and stands for the same schedule
(`ForkTable.resolve_ofSchedule`). What is read is then checked as any other parameters, so those that
are refused were refused before (`Params.ofText_toText`).
-/

namespace EvmBank

open Json (Dialect)

variable (d : Dialect)

namespace ForkEntry

/-- What is written for the height of a fork. -/
def ofActivation : Option Height → ForkEntry
  | none => .never
  | some height => .since height

theorem resolve_ofActivation (previous activation : Option Height) :
    (ofActivation activation).resolve previous = activation := by
  cases activation <;> rfl

end ForkEntry

namespace ForkTable

theorem entryOfJson?_ofOption (activation : Option Height) :
    entryOfJson? (Json.ofOption Quantity.toJson activation) = some (.ofActivation activation) := by
  cases activation with
  | none => rfl
  | some height =>
    have hread : Json.nullable? Json.quantity? height.toJson = some (some height) := by
      change (Json.quantity? height.toJson).map some = _
      rw [height.quantity?_toJson]
      rfl
    rw [entryOfJson?, Json.ofOption, hread]
    rfl

/-- The table that a schedule is written as. -/
def ofSchedule (s : ForkSchedule) : ForkTable where
  homestead := .ofActivation s.homestead
  istanbul := .ofActivation s.istanbul
  berlin := .ofActivation s.berlin
  london := .ofActivation s.london
  shanghai := .ofActivation s.shanghai

theorem ofJson?_toJson (s : ForkSchedule) : ofJson? d s.toJson = some (ofSchedule s) := by
  simp [ForkSchedule.toJson, ofJson?, Fork.all, Fork.name, ForkSchedule.activation,
    Json.record?_ofMembers, Json.Record.optional?, Json.Record.entry?, entryOfJson?_ofOption, ofSchedule]

/-- Nothing is left out of the table, so no fork is active from the height of another. -/
theorem resolve_ofSchedule (s : ForkSchedule) : (ofSchedule s).resolve = s := by
  simp only [resolve, ofSchedule, ForkEntry.resolve_ofActivation]

end ForkTable

namespace ForkSchedule

theorem ofJson?_toJson (s : ForkSchedule) : ofJson? d s.toJson = some s := by
  rw [ofJson?, ForkTable.ofJson?_toJson, Option.map_some, ForkTable.resolve_ofSchedule]

theorem plain_toJson (s : ForkSchedule) : s.toJson.Plain := by
  refine .object ?_
  rw [List.forall_mem_map]
  exact fun f _ => .ofOption Quantity.plain_toJson (s.activation f)

end ForkSchedule

namespace GasMultiplier

theorem ofJson?_toJson (m : GasMultiplier) : ofJson? d m.toJson = some m := by
  simp [toJson, ofJson?, Json.record?_ofMembers, Json.Record.required?, Json.Record.entry?,
    Quantity.quantity?_toJson]

theorem plain_toJson (m : GasMultiplier) : m.toJson.Plain := by
  refine .object ?_
  simp only [List.forall_mem_cons]
  exact ⟨m.numerator.plain_toJson, m.denominator.plain_toJson, List.forall_mem_nil _⟩

end GasMultiplier

namespace AccessPolicy

/-- A policy is a name alone, or a list beside its name. -/
theorem ofJson?_toJson (p : AccessPolicy) : ofJson? d p.toJson = some p := by
  cases p with
  | permissionless => rfl
  | restricted => rfl
  | permissioned allowed =>
    simp [toJson, ofJson?, Json.ofMembers, Json.choice?,
      Json.list?_ofList fun a _ => Address.ofJson?_toJson a]

theorem plain_toJson (p : AccessPolicy) : p.toJson.Plain := by
  cases p with
  | permissionless => exact .text _
  | restricted => exact .text _
  | permissioned allowed =>
    refine .object ?_
    simp only [List.forall_mem_cons]
    exact ⟨.ofList Address.plain_toJson allowed, List.forall_mem_nil _⟩

end AccessPolicy

namespace AccessControl

theorem ofJson?_toJson (c : AccessControl) : ofJson? d c.toJson = some c := by
  simp [toJson, ofJson?, Json.record?_ofMembers, Json.Record.optional?, Json.Record.entry?,
    AccessPolicy.ofJson?_toJson]

theorem plain_toJson (c : AccessControl) : c.toJson.Plain := by
  refine .object ?_
  simp only [List.forall_mem_cons]
  exact ⟨c.call.plain_toJson, c.create.plain_toJson, List.forall_mem_nil _⟩

end AccessControl

namespace TokenListing

theorem ofJson?_toJson (t : TokenListing) : ofJson? d t.toJson = some t := by
  simp [toJson, ofJson?, Json.record?_ofMembers, Json.Record.optional?, Json.Record.entry?,
    Json.bool?, Json.list?_ofList fun a _ => Address.ofJson?_toJson a]

theorem plain_toJson (t : TokenListing) : t.toJson.Plain := by
  refine .object ?_
  simp only [List.forall_mem_cons]
  exact ⟨.bool _, .ofList Address.plain_toJson t.native, .ofList Address.plain_toJson t.dynamic,
    List.forall_mem_nil _⟩

end TokenListing

namespace Params

theorem ofJson?_toJson (p : Params) : ofJson? d p.toJson = some p := by
  simp [toJson, ofJson?, Json.record?_ofMembers, Json.Record.optional?, Json.Record.entry?,
    Json.ofString, Json.text?, ForkSchedule.ofJson?_toJson, Address.ofJson?_toJson,
    GasMultiplier.ofJson?_toJson, AccessControl.ofJson?_toJson, Quantity.quantity?_toJson,
    TokenListing.ofJson?_toJson]

theorem plain_toJson (p : Params) : p.toJson.Plain := by
  refine .object ?_
  simp only [List.forall_mem_cons]
  exact ⟨.text _, p.forks.plain_toJson, p.feeCollector.plain_toJson,
    p.minGasMultiplier.plain_toJson, p.accessControl.plain_toJson, p.approvalSeconds.plain_toJson,
    p.tokens.plain_toJson, List.forall_mem_nil _⟩

/-- Parameters are loaded as they were saved, and then checked. -/
theorem ofText_toText (p : Params) : ofText p.toText = p.validate.map fun _ => p := by
  rw [ofText, toText, p.plain_toJson.parse?_toText, ofDocument, Option.bind_some,
    p.ofJson?_toJson Json.dialect]
  cases hp : p.validate with
  | error cause => simp only [hp]; rfl
  | ok _ => simp only [hp]; rfl

/-- Parameters without a flaw that were saved are loaded as they were. -/
theorem flawless_params_reload {p : Params} (hp : p.validate = .ok ()) :
    ofText p.toText = .ok p := by
  rw [ofText_toText, hp]
  rfl

/-- Parameters with a schedule that ends in forks that are never active, a policy with a list, and the
longest life of a grant. -/
def guarded : Params where
  evmDenom := "ibc/a:b"
  forks := ⟨some 0, some 7, some Quantity.greatest, none, none⟩
  feeCollector := .ofLow 9
  minGasMultiplier := ⟨3, 3⟩
  accessControl := ⟨.restricted, .permissioned [.ofLow 5, .ofLow 5, .zero]⟩
  approvalSeconds := Quantity.greatest
  tokens := ⟨false, [.ofLow 2, .ofLow 1], [.zero]⟩

theorem guarded_params_reload : guarded.validate = .ok () ∧ ofText guarded.toText = .ok guarded :=
  have hvalid : guarded.validate = .ok () := by decide
  ⟨hvalid, flawless_params_reload hvalid⟩

end Params

end EvmBank
