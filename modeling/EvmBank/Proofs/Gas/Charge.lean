import EvmBank.Gas.Floor
import EvmBank.Gas.Tally
import Mathlib.Algebra.Order.Floor.Div

/-!
# What a message is charged

A tally takes on every charge that its limit admits (`charge?_eq_some`), and a refund takes off no
more than was used (`settleRefund_eq_ok`). So the tally of a message whose charges fit in its limit
has a closed form (`exists_settled`). A floor that is a share of the limit is exact, and within the
limit (`IsShare.floor?_eq_some`).
-/

namespace EvmBank

/-! ## The floor -/

namespace GasMultiplier

variable {m : GasMultiplier}

/-- A share that can be computed and is not more than the whole. -/
structure IsShare (m : GasMultiplier) : Prop where
  denominator : 0 < m.denominator.toNat
  le_one : m.numerator ≤ m.denominator

theorem IsShare.ceilDiv_le (hm : m.IsShare) (limit : Nat) :
    limit * m.numerator.toNat ⌈/⌉ m.denominator.toNat ≤ limit := by
  rw [ceilDiv_le_iff_le_mul hm.denominator, Nat.mul_comm]
  exact Nat.mul_le_mul_right limit hm.le_one

/-- The share is exact, rounded up, and never above the limit. -/
theorem IsShare.floor?_eq_some (hm : m.IsShare) (limit : Gas) :
    ∃ floor, m.floor? limit = some floor ∧
      floor.toNat = limit.toNat * m.numerator.toNat ⌈/⌉ m.denominator.toNat ∧ floor ≤ limit := by
  have hle := hm.ceilDiv_le limit.toNat
  unfold floor?
  split
  · rename_i hnone
    have hz : m.numerator = 0 := by
      rcases (Bool.or_eq_true ..).mp hnone with h | h
      · exact Quantity.isZero_iff.mp h
      · have := hm.denominator
        rw [Quantity.isZero_iff.mp h] at this
        exact absurd this (by simp)
    refine ⟨0, rfl, ?_, Nat.zero_le _⟩
    simp [hz]
  · have hvalue := Nat.ceilDiv_eq_add_pred_div (limit.toNat * m.numerator.toNat)
      m.denominator.toNat
    rw [Nat.add_sub_assoc hm.denominator] at hvalue
    rw [← hvalue]
    obtain ⟨floor, hfloor⟩ : ∃ floor : Gas, floor.toNat =
        limit.toNat * m.numerator.toNat ⌈/⌉ m.denominator.toNat :=
      ⟨⟨_, Nat.lt_of_le_of_lt hle limit.isLt⟩, rfl⟩
    exact ⟨floor, Quantity.ofNat?_eq_some.mpr hfloor, hfloor, Quantity.le_def.mpr (hfloor ▸ hle)⟩

end GasMultiplier

/-! ## The tally -/

namespace GasTally

variable {t t' : GasTally}

/-- A charge is taken on exactly if the limit admits it. -/
theorem charge?_eq_some {amount : Gas} : t.charge? amount = some t' ↔
    t.used.toNat + amount.toNat ≤ t.limit.toNat ∧
      ∃ total, total.toNat = t.used.toNat + amount.toNat ∧ t' = { t with used := total } := by
  unfold charge?
  cases hadd : t.used.add? amount with
  | none =>
    have hover := Quantity.ofNat?_eq_none.mp hadd
    have hlimit := t.limit.isLt
    constructor
    · exact nofun
    · rintro ⟨hle, -⟩
      omega
  | some total =>
    have htotal := Quantity.add?_eq_some.mp hadd
    dsimp only
    split
    · rename_i hle
      constructor
      · rintro ⟨⟩
        exact ⟨htotal ▸ Quantity.le_def.mp hle, total, htotal, rfl⟩
      · rintro ⟨-, total', htotal', rfl⟩
        rw [Quantity.toNat_inj.mp (htotal.trans htotal'.symm)]
    · rename_i hgt
      constructor
      · exact nofun
      · rintro ⟨hle, -⟩
        exact absurd (Quantity.le_def.mpr (htotal ▸ hle)) hgt

theorem charge_of_charge? {amount : Gas} (h : t.charge? amount = some t') :
    t.charge amount = t' := by
  rw [charge, h]
  rfl

/-- The refund that is granted is taken off, and never more than was used. -/
theorem settleRefund_eq_ok {quotient : Gas} (hq : quotient ≠ 0) :
    ∃ t', t.settleRefund quotient = .ok t' ∧ t'.limit = t.limit ∧
      t'.used.toNat = t.used.toNat - min t.refund.toNat (t.used.toNat / quotient.toNat) := by
  have hgranted : grantedRefund t.refund t.used quotient =
      .ok (min t.refund (t.used.div quotient)) := if_neg hq
  have hle : min t.refund.toNat (t.used.toNat / quotient.toNat) ≤ t.used.toNat :=
    Nat.le_trans (Nat.min_le_right _ _) (Nat.div_le_self _ _)
  cases hsub : t.used.sub? (min t.refund (t.used.div quotient)) with
  | none =>
    have := Quantity.sub?_eq_none.mp hsub
    simp only [Quantity.toNat_min, Quantity.toNat_div] at this
    exact absurd hle (Nat.not_le_of_lt this)
  | some left =>
    obtain ⟨-, hleft⟩ := Quantity.sub?_eq_some.mp hsub
    simp only [Quantity.toNat_min, Quantity.toNat_div] at hleft
    refine ⟨{ t with used := left, refund := min t.refund (t.used.div quotient) }, ?_, rfl, hleft⟩
    simp only [settleRefund, hgranted, bind, Except.bind, hsub]

/-- Both charges of a message that fit in its limit are taken on, and its refund is taken off. -/
theorem exists_settled {limit intrinsic used quotient : Gas} (asked : Gas)
    (hfit : intrinsic.toNat + used.toNat ≤ limit.toNat) (hq : quotient ≠ 0) :
    ∃ t t' settled, (ofLimit limit).charge? intrinsic = some t ∧ t.charge? used = some t' ∧
      (t'.addRefund asked).settleRefund quotient = .ok settled ∧ settled.limit = limit ∧
      settled.used.toNat = intrinsic.toNat + used.toNat -
        min asked.toNat ((intrinsic.toNat + used.toNat) / quotient.toNat) := by
  have hsum := Nat.lt_of_le_of_lt hfit limit.isLt
  have hfirst : (ofLimit limit).charge? intrinsic = some ⟨limit, intrinsic, 0⟩ := by
    refine charge?_eq_some.mpr ⟨?_, intrinsic, ?_, rfl⟩
    · simp only [ofLimit, Quantity.toNat_zero]
      omega
    · simp [ofLimit]
  have hsecond : (⟨limit, intrinsic, 0⟩ : GasTally).charge? used =
      some ⟨limit, ⟨intrinsic.toNat + used.toNat, hsum⟩, 0⟩ :=
    charge?_eq_some.mpr ⟨hfit, ⟨_, hsum⟩, rfl, rfl⟩
  have hasked : ((0 : Gas).satAdd asked) = asked := by
    rw [← Quantity.toNat_inj, Quantity.toNat_satAdd, Quantity.toNat_zero, Nat.zero_add]
    exact Nat.min_eq_left (Nat.le_sub_one_of_lt asked.isLt)
  obtain ⟨settled, hsettled, hlimit, hused⟩ := settleRefund_eq_ok (t :=
    (⟨limit, ⟨intrinsic.toNat + used.toNat, hsum⟩, 0⟩ : GasTally).addRefund asked) hq
  refine ⟨_, _, settled, hfirst, hsecond, hsettled, hlimit, ?_⟩
  rw [hused, addRefund, hasked]

theorem used_applyFloor (t : GasTally) (floor : Gas) :
    (t.applyFloor floor).used.toNat = max t.used.toNat (min floor.toNat t.limit.toNat) := by
  simp only [applyFloor, Quantity.toNat_max, Quantity.toNat_min]

end GasTally

end EvmBank
