import EvmBank.Gas.Intrinsic
import Mathlib.Algebra.Ring.Nat

/-!
# The intrinsic gas as a sum

Charging item after item, with a check at each, comes to the exact sum of all charges, and fails only
where that sum does not fit (`intrinsicGas_eq_ok`). A part that adds an exact amount wherever the sum
fits `Adds` it, and parts of which each adds its own amount add all of them one after the other
(`Adds.bind`), since no partial sum is greater than the whole. What grows the sum then costs more gas or
overflows (`costlier_of_lt`), and so does a longer payload or access list, whatever the rounding of the
words does (`intrinsicGas_exact_and_growing`).
-/

namespace EvmBank

-- Powers are those of the core library, also beside more general ones.
attribute [local instance (high)] instPowNat

/-! ## Parts of the sum -/

/-- The part adds exactly `amount` where that fits, and fails where it does not. -/
def Adds (part : Gas → Except IntrinsicGasError Gas) (amount : Nat) : Prop :=
  ∀ gas total, part gas = .ok total ↔ total.toNat = gas.toNat + amount

namespace Adds

variable {part next : Gas → Except IntrinsicGasError Gas} {amount amount' : Nat}

theorem pure : Adds (fun gas => .ok gas) 0 := by
  intro gas total
  rw [Except.ok.injEq, Nat.add_zero, Quantity.toNat_inj]
  exact eq_comm

theorem addCharge (count unit : Nat) (item : GasItem) :
    Adds (fun gas => addCharge gas count unit item) (count * unit) := by
  intro gas total
  dsimp only [EvmBank.addCharge]
  cases hsum : (Quantity.ofNat? (gas.toNat + count * unit) : Option Gas) with
  | none =>
    have hover := Quantity.ofNat?_eq_none.mp hsum
    have hfits := total.isLt
    refine ⟨nofun, fun htotal => ?_⟩
    omega
  | some exact =>
    have hexact := Quantity.ofNat?_eq_some.mp hsum
    constructor
    · rintro ⟨⟩
      exact hexact
    · intro htotal
      rw [Quantity.toNat_inj.mp (htotal.trans hexact.symm)]

/-- What fits with both amounts fits with the first alone. -/
theorem bind (h : Adds part amount) (hnext : Adds next amount') :
    Adds (fun gas => part gas >>= next) (amount + amount') := by
  intro gas total
  dsimp only
  constructor
  · intro htotal
    cases hpart : part gas with
    | error cause =>
      rw [hpart] at htotal
      cases htotal
    | ok sum =>
      rw [hpart] at htotal
      have hsum := (h gas sum).mp hpart
      have hrest := (hnext sum total).mp htotal
      omega
  · intro htotal
    have hfits := total.isLt
    have hpart := (h gas ⟨gas.toNat + amount, by omega⟩).mpr rfl
    rw [hpart]
    refine (hnext _ total).mpr ?_
    rw [htotal]
    exact (Nat.add_assoc _ _ _).symm

/-- A check that passes wherever the sum fits makes no difference. -/
theorem guarded {bad : Prop} [Decidable bad] (h : Adds part amount) (cause : IntrinsicGasError)
    (hbad : bad → 2 ^ (64 : Nat) ≤ amount) :
    Adds (fun gas => if bad then .error cause else part gas) amount := by
  intro gas total
  dsimp only
  split
  · rename_i hover
    have hamount := hbad hover
    have hfits := total.isLt
    refine ⟨nofun, fun htotal => ?_⟩
    omega
  · exact h gas total

end Adds

/-! ## The whole -/

/-- What the bytes of a payload are charged. -/
def exactPayloadGas (payload : Bytes) (creation : Bool) (rules : ChainRules) : Nat :=
  payload.countP (· ≠ 0) * (if rules.istanbul then 16 else 68) + payload.countP (· = 0) * 4 +
    if creation && rules.shanghai then (payload.length + 31) / 32 * 2 else 0

def exactAccessListGas (accessList : List AccessTuple) : Nat :=
  accessList.length * 2400 + (accessList.map (·.storageKeys.length)).sum * 1900

/-- The sum of all charges. -/
def exactIntrinsicGas (payload : Bytes) (accessList : List AccessTuple) (creation : Bool)
    (rules : ChainRules) : Nat :=
  (if creation && rules.homestead then 53000 else 21000) + exactPayloadGas payload creation rules +
    exactAccessListGas accessList

theorem keyCount_eq (accessList : List AccessTuple) :
    keyCount accessList = (accessList.map (·.storageKeys.length)).sum := by
  induction accessList with
  | nil => rfl
  | cons t rest ih => rw [keyCount, ih, List.map_cons, List.sum_cons]

theorem length_eq_countP_nonZero_add (payload : Bytes) :
    payload.length = payload.countP (· ≠ 0) + payload.countP (· = 0) := by
  have hlength := List.length_eq_countP_add_countP (fun b : UInt8 => decide (b ≠ 0)) (l := payload)
  have hsame : (fun b : UInt8 => decide ¬decide (b ≠ 0) = true) = fun b => decide (b = 0) := by
    funext b
    simp
  rwa [hsame] at hlength

theorem addPayload_adds (payload : Bytes) (creation : Bool) (rules : ChainRules) :
    Adds (fun gas => addPayload gas payload creation rules)
      (exactPayloadGas payload creation rules) := by
  have hzeros : payload.length - payload.countP (· ≠ 0) = payload.countP (· = 0) := by
    rw [length_eq_countP_nonZero_add payload]
    exact Nat.add_sub_cancel_left _ _
  have hwords : Adds
      (fun gas => if creation && rules.shanghai then
          addCharge gas ((payload.length + 31) / 32) 2 .initCodeWords
        else return gas)
      (if creation && rules.shanghai then (payload.length + 31) / 32 * 2 else 0) := by
    split
    · exact .addCharge _ _ _
    · exact .pure
  unfold exactPayloadGas
  rw [← hzeros, Nat.add_assoc]
  exact (Adds.addCharge _ _ .nonZeroBytes).bind ((Adds.addCharge _ _ .zeroBytes).bind hwords)

theorem addAccessList_adds (accessList : List AccessTuple) :
    Adds (fun gas => addAccessList gas accessList) (exactAccessListGas accessList) := by
  have hcharges : Adds
      (fun gas => addCharge gas accessList.length 2400 .accessAddresses >>= fun gas =>
        addCharge gas (keyCount accessList) 1900 .accessKeys) (exactAccessListGas accessList) := by
    unfold exactAccessListGas
    rw [← keyCount_eq]
    exact (Adds.addCharge _ _ _).bind (Adds.addCharge _ _ _)
  -- Keys that are too many to be counted cost more than the gas goes up to.
  have htoo : (Quantity.ofNat? (keyCount accessList) : Option Gas).isNone = true →
      2 ^ 64 ≤ exactAccessListGas accessList := by
    intro hnone
    have hover := Quantity.ofNat?_eq_none.mp (Option.isNone_iff_eq_none.mp hnone)
    rw [exactAccessListGas, ← keyCount_eq]
    omega
  have hguarded := hcharges.guarded ⟨.accessKeys⟩ htoo
  refine fun gas total => Iff.trans ?_ (hguarded gas total)
  unfold addAccessList
  dsimp only
  split <;> rfl

/-- The intrinsic gas is the sum of all charges, and there is none only if the sum does not fit. -/
theorem intrinsicGas_eq_ok {payload : Bytes} {accessList : List AccessTuple} {creation : Bool}
    {rules : ChainRules} {gas : Gas} :
    intrinsicGas payload accessList creation rules = .ok gas ↔
      gas.toNat = exactIntrinsicGas payload accessList creation rules := by
  have hadds := (addPayload_adds payload creation rules).bind (addAccessList_adds accessList)
  have hbase : (baseGas creation rules).toNat =
      if creation && rules.homestead then 53000 else 21000 := by
    unfold baseGas
    split <;> rfl
  rw [exactIntrinsicGas, Nat.add_assoc, ← hbase]
  exact hadds (baseGas creation rules) gas

theorem intrinsicGas_eq_error {payload : Bytes} {accessList : List AccessTuple} {creation : Bool}
    {rules : ChainRules} :
    (∃ item, intrinsicGas payload accessList creation rules = .error ⟨item⟩) ↔
      2 ^ 64 ≤ exactIntrinsicGas payload accessList creation rules := by
  constructor
  · intro ⟨item, herror⟩
    refine Nat.le_of_not_lt fun hfits => ?_
    have hok := intrinsicGas_eq_ok.mpr (show (⟨_, hfits⟩ : Gas).toNat = _ from rfl)
    rw [herror] at hok
    cases hok
  · intro hover
    cases hgas : intrinsicGas payload accessList creation rules with
    | error cause => exact ⟨cause.item, rfl⟩
    | ok gas =>
      have hsum := intrinsicGas_eq_ok.mp hgas
      have hfits := gas.isLt
      omega

/-! ## Growth -/

/-- The second overflows, or both are gas and the second is more of it. -/
def Costlier (before after : Except IntrinsicGasError Gas) : Prop :=
  (∃ item, after = .error ⟨item⟩) ∨ ∃ gas more, before = .ok gas ∧ after = .ok more ∧ gas < more

theorem costlier_of_lt {payload payload' : Bytes} {accessList accessList' : List AccessTuple}
    {creation : Bool} {rules : ChainRules}
    (hlt : exactIntrinsicGas payload accessList creation rules <
      exactIntrinsicGas payload' accessList' creation rules) :
    Costlier (intrinsicGas payload accessList creation rules)
      (intrinsicGas payload' accessList' creation rules) := by
  cases hafter : intrinsicGas payload' accessList' creation rules with
  | error cause => exact .inl ⟨cause.item, rfl⟩
  | ok more =>
    have hmore := intrinsicGas_eq_ok.mp hafter
    have hfits : exactIntrinsicGas payload accessList creation rules < 2 ^ 64 :=
      Nat.lt_trans hlt (hmore ▸ more.isLt)
    refine .inr ⟨⟨_, hfits⟩, more, intrinsicGas_eq_ok.mpr rfl, rfl, ?_⟩
    rw [Quantity.lt_def, hmore]
    exact hlt

/-- Every byte is charged for, and more bytes do not come to fewer words. -/
theorem exactPayloadGas_lt_append (payload : Bytes) {bytes : Bytes} (hne : bytes ≠ [])
    (creation : Bool) (rules : ChainRules) :
    exactPayloadGas payload creation rules < exactPayloadGas (payload ++ bytes) creation rules := by
  have hbytes : 0 < bytes.countP (· ≠ 0) + bytes.countP (· = 0) :=
    length_eq_countP_nonZero_add bytes ▸ List.length_pos_iff.mpr hne
  have hwords : (payload.length + 31) / 32 ≤ ((payload ++ bytes).length + 31) / 32 := by
    rw [List.length_append]
    omega
  unfold exactPayloadGas
  rw [List.countP_append, List.countP_append]
  split <;> split <;> omega

theorem exactAccessListGas_append (before after : List AccessTuple) :
    exactAccessListGas (before ++ after) = exactAccessListGas before + exactAccessListGas after := by
  unfold exactAccessListGas
  rw [List.length_append, List.map_append, List.sum_append]
  omega

theorem exactAccessListGas_cons (t : AccessTuple) (rest : List AccessTuple) :
    exactAccessListGas (t :: rest) =
      2400 + t.storageKeys.length * 1900 + exactAccessListGas rest := by
  unfold exactAccessListGas
  rw [List.length_cons, List.map_cons, List.sum_cons]
  omega

/-- The intrinsic gas is the exact sum of all charges where that has 64 bits, and there is an overflow
where it has not. Under the same rules, bytes behind the payload, a tuple in the access list or keys in
a tuple make it greater, or make it overflow. -/
theorem intrinsicGas_exact_and_growing (payload : Bytes) (accessList : List AccessTuple)
    (creation : Bool) (rules : ChainRules) :
    (∀ gas, intrinsicGas payload accessList creation rules = .ok gas ↔
      exactIntrinsicGas payload accessList creation rules < 2 ^ 64 ∧
        gas.toNat = exactIntrinsicGas payload accessList creation rules) ∧
    (2 ^ 64 ≤ exactIntrinsicGas payload accessList creation rules →
      ∃ item, intrinsicGas payload accessList creation rules = .error ⟨item⟩) ∧
    (∀ bytes, bytes ≠ [] →
      Costlier (intrinsicGas payload accessList creation rules)
        (intrinsicGas (payload ++ bytes) accessList creation rules)) ∧
    (∀ before t after, accessList = before ++ after →
      Costlier (intrinsicGas payload accessList creation rules)
        (intrinsicGas payload (before ++ t :: after) creation rules)) ∧
    ∀ before t after keys, accessList = before ++ t :: after → keys ≠ [] →
      Costlier (intrinsicGas payload accessList creation rules)
        (intrinsicGas payload
          (before ++ { t with storageKeys := t.storageKeys ++ keys } :: after) creation rules) := by
  refine ⟨fun gas => ?_, intrinsicGas_eq_error.mpr, fun bytes hne => ?_, ?_, ?_⟩
  · rw [intrinsicGas_eq_ok]
    exact ⟨fun hsum => ⟨hsum ▸ gas.isLt, hsum⟩, And.right⟩
  · have hpayload := exactPayloadGas_lt_append payload hne creation rules
    refine costlier_of_lt ?_
    unfold exactIntrinsicGas
    omega
  · rintro before t after rfl
    refine costlier_of_lt ?_
    unfold exactIntrinsicGas
    rw [exactAccessListGas_append, exactAccessListGas_append, exactAccessListGas_cons]
    omega
  · rintro before t after keys rfl hne
    have hkeys := List.length_pos_iff.mpr hne
    refine costlier_of_lt ?_
    unfold exactIntrinsicGas
    rw [exactAccessListGas_append, exactAccessListGas_append, exactAccessListGas_cons,
      exactAccessListGas_cons, List.length_append]
    omega

/-- A creation that costs 55406 costs 16 more with one byte more, and also more with a tuple or a key. -/
theorem intrinsicGas_growing_by_one :
    let rules : ChainRules := ⟨1, true, true, true, true, true⟩
    let t : AccessTuple := ⟨.zero, []⟩
    Costlier (intrinsicGas [0] [t] true rules) (intrinsicGas [0, 1] [t] true rules) ∧
      Costlier (intrinsicGas [0] [t] true rules) (intrinsicGas [0] [t, t] true rules) ∧
      Costlier (intrinsicGas [0] [t] true rules)
        (intrinsicGas [0] [⟨.zero, [.zero]⟩] true rules) ∧
      intrinsicGas [0] [t] true rules = .ok 55406 ∧
      intrinsicGas [0, 1] [t] true rules = .ok 55422 := by
  intro rules t
  obtain ⟨-, -, hbytes, htuple, hkeys⟩ := intrinsicGas_exact_and_growing [0] [t] true rules
  exact ⟨hbytes [1] (by decide), htuple [t] t [] rfl, hkeys [] t [] [.zero] rfl (by decide),
    by decide, by decide⟩

end EvmBank
