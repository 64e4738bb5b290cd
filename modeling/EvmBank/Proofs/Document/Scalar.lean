import EvmBank.Document.Scalar
import EvmBank.Proofs.Address.Hexadecimal
import EvmBank.Proofs.Json.RoundTrip

/-!
# Single values, lists and records in documents

A record that was written as its members is read as these (`Json.record?_ofMembers`), and a list is
read as it was written, if each of its items is (`Json.list?_ofList`). Addresses and numbers of 64 bits
are read as they were written.
-/

namespace EvmBank

-- Powers are those of the core library, also beside more general ones.
attribute [local instance (high)] instPowNat

namespace Json

theorem mapM_map_eq_some {α β : Type} {read : β → Option α} {write : α → β} {l : List α}
    (hitem : ∀ a ∈ l, read (write a) = some a) : (l.map write).mapM read = some l := by
  induction l with
  | nil => rfl
  | cons a l ih =>
    rw [List.map_cons, List.mapM_cons, hitem a List.mem_cons_self,
      ih fun a ha => hitem a (List.mem_cons_of_mem _ ha)]
    rfl

theorem record?_ofMembers (d : Dialect) (count : Nat) (members : List (String × Json)) :
    record? d count (.ofMembers members) = some (.members members) := by
  have hnamed : (members.map fun m => (some m.1, m.2)).mapM named? = some members :=
    mapM_map_eq_some fun _ _ => rfl
  rw [ofMembers, record?, hnamed]
  rfl

/-- A list is read as it was written, if each of its items is. -/
theorem list?_ofList {α : Type} {read : Json → Option α} {write : α → Json} {l : List α}
    (hitem : ∀ a ∈ l, read (write a) = some a) : list? read (.ofList write l) = some l :=
  mapM_map_eq_some hitem

theorem Plain.ofList {α : Type} {write : α → Json} (hwrite : ∀ a, Plain (write a)) (l : List α) :
    Plain (.ofList write l) := by
  refine .array fun v hv => ?_
  obtain ⟨a, -, rfl⟩ := List.mem_map.mp hv
  exact hwrite a

theorem Plain.ofOption {α : Type} {write : α → Json} (hwrite : ∀ a, Plain (write a)) (o : Option α) :
    Plain (.ofOption write o) := by
  cases o with
  | none => exact .null
  | some a => exact hwrite a

end Json

namespace Address

theorem ofJson?_toJson (a : Address) : ofJson? a.toJson = some a := by
  rw [toJson, ofJson?, Json.ofString, Json.text?, Option.bind_some, ofHex_toHex]
  rfl

theorem plain_toJson (a : Address) : a.toJson.Plain := .text _

end Address

namespace Quantity

/-- A number of 64 bits takes at most 20 digits, so it is never too long to be read. -/
theorem quantity?_toJson (n : Quantity 64) : Json.quantity? n.toJson = some n := by
  have hlength : (Nat.toDigits 10 n.toNat).length ≤ 64 := by
    refine (Nat.length_toDigits_le_iff (by decide) (by decide)).mpr ?_
    exact Nat.lt_of_lt_of_le n.isLt (by decide)
  have hdigits : (Nat.toDigits 10 n.toNat).all Char.isDigit = true :=
    List.all_eq_true.mpr fun c hc => Json.isDigit_of_mem_toDigits hc
  rw [toJson, Json.ofNat, Json.quantity?, decide_eq_true hlength, hdigits, Bool.and_self,
    if_pos rfl, Nat.ofDigitChars_ten_toDigits]
  exact ofNat?_eq_some.mpr rfl

theorem plain_toJson (n : Quantity 64) : n.toJson.Plain := .number _

end Quantity

end EvmBank
