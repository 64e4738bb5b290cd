/-!
Numbers of a fixed width: amounts are 256 bits wide, and gas, heights, nonces and times 64. Each
operation says what happens where the exact result does not fit: the checked ones answer `none`,
the saturating ones the nearest bound. Nothing here wraps round.
-/

namespace EvmBank

-- Powers are those of the core library, also beside more general ones.
attribute [local instance (high)] instPowNat

/-- A natural number below `2 ^ bits`. -/
@[ext]
structure Quantity (bits : Nat) where
  toNat : Nat
  isLt : toNat < 2 ^ bits
deriving DecidableEq

/-- A number of coins, or a price in them. -/
abbrev Amount := Quantity 256

abbrev Gas := Quantity 64

abbrev Height := Quantity 64

/-- A time in seconds since the epoch, or a number of seconds. -/
abbrev Seconds := Quantity 64

/-- How many messages an account has sent. -/
abbrev Nonce := Quantity 64

namespace Quantity

variable {bits : Nat}

/-- The number `n`, if it fits. -/
def ofNat? (n : Nat) : Option (Quantity bits) :=
  if h : n < 2 ^ bits then some ⟨n, h⟩ else none

/-- The fitting number nearest to `n`. -/
def clamp (n : Nat) : Quantity bits :=
  ⟨min n (2 ^ bits - 1), by have := Nat.two_pow_pos bits; omega⟩

instance (n : Nat) : OfNat (Quantity bits) n := ⟨clamp n⟩
instance : Inhabited (Quantity bits) := ⟨0⟩
instance : LE (Quantity bits) := ⟨fun a b => a.toNat ≤ b.toNat⟩
instance : LT (Quantity bits) := ⟨fun a b => a.toNat < b.toNat⟩
instance (a b : Quantity bits) : Decidable (a ≤ b) := inferInstanceAs (Decidable (a.toNat ≤ b.toNat))
instance (a b : Quantity bits) : Decidable (a < b) := inferInstanceAs (Decidable (a.toNat < b.toNat))
instance : Min (Quantity bits) := ⟨fun a b => if a ≤ b then a else b⟩
instance : Max (Quantity bits) := ⟨fun a b => if a ≤ b then b else a⟩

instance : Ord (Quantity bits) := ⟨compareOn Quantity.toNat⟩
instance : Std.TransOrd (Quantity bits) := inferInstanceAs (Std.TransCmp (compareOn Quantity.toNat))

instance : Std.LawfulEqOrd (Quantity bits) where
  eq_of_compare {a b} h := Quantity.ext (Nat.compare_eq_eq.1 (show compare a.toNat b.toNat = .eq from h))

def greatest : Quantity bits := clamp (2 ^ bits - 1)

def add? (a b : Quantity bits) : Option (Quantity bits) := ofNat? (a.toNat + b.toNat)

def mul? (a b : Quantity bits) : Option (Quantity bits) := ofNat? (a.toNat * b.toNat)

/-- The exact difference, if it is not negative. -/
def sub? (a b : Quantity bits) : Option (Quantity bits) :=
  if b ≤ a then some ⟨a.toNat - b.toNat, Nat.lt_of_le_of_lt (Nat.sub_le _ _) a.isLt⟩ else none

/-- The sum, or the greatest number where it does not fit. -/
def satAdd (a b : Quantity bits) : Quantity bits := clamp (a.toNat + b.toNat)

/-- The product, or the greatest number where it does not fit. -/
def satMul (a b : Quantity bits) : Quantity bits := clamp (a.toNat * b.toNat)

/-- The difference, or zero where it is negative. -/
def satSub (a b : Quantity bits) : Quantity bits :=
  ⟨a.toNat - b.toNat, Nat.lt_of_le_of_lt (Nat.sub_le _ _) a.isLt⟩

def div (a b : Quantity bits) : Quantity bits :=
  ⟨a.toNat / b.toNat, Nat.lt_of_le_of_lt (Nat.div_le_self _ _) a.isLt⟩

def widen (a : Quantity 64) : Quantity 256 :=
  ⟨a.toNat, Nat.lt_of_lt_of_le a.isLt (by decide)⟩

def isZero (a : Quantity bits) : Bool := a.toNat = 0

/-- Decimal digits, without leading zeros. -/
def decimal (a : Quantity bits) : String := Nat.repr a.toNat

instance : ToString (Quantity bits) := ⟨decimal⟩

theorem le_def {a b : Quantity bits} : a ≤ b ↔ a.toNat ≤ b.toNat := Iff.rfl

theorem lt_def {a b : Quantity bits} : a < b ↔ a.toNat < b.toNat := Iff.rfl

@[simp] theorem toNat_inj {a b : Quantity bits} : a.toNat = b.toNat ↔ a = b :=
  ⟨Quantity.ext, fun h => h ▸ rfl⟩

@[simp] theorem toNat_clamp (n : Nat) : (clamp n : Quantity bits).toNat = min n (2 ^ bits - 1) := rfl

@[simp] theorem toNat_zero : (0 : Quantity bits).toNat = 0 := Nat.zero_min _

theorem isZero_iff {a : Quantity bits} : a.isZero = true ↔ a = 0 := by
  simp [isZero, ← toNat_inj]

theorem ofNat?_eq_some {n : Nat} {a : Quantity bits} : ofNat? n = some a ↔ a.toNat = n := by
  unfold ofNat?
  split
  · rw [Option.some_inj, ← toNat_inj]
    exact eq_comm
  · rename_i h
    have := a.isLt
    constructor
    · intro e; cases e
    · intro e; omega

theorem ofNat?_eq_none {n : Nat} : (ofNat? n : Option (Quantity bits)) = none ↔ 2 ^ bits ≤ n := by
  unfold ofNat?
  split <;> simp <;> omega

theorem add?_eq_some {a b c : Quantity bits} : a.add? b = some c ↔ c.toNat = a.toNat + b.toNat :=
  ofNat?_eq_some

theorem mul?_eq_some {a b c : Quantity bits} : a.mul? b = some c ↔ c.toNat = a.toNat * b.toNat :=
  ofNat?_eq_some

theorem sub?_eq_some {a b c : Quantity bits} :
    a.sub? b = some c ↔ b.toNat ≤ a.toNat ∧ c.toNat = a.toNat - b.toNat := by
  unfold sub?
  split
  · rename_i h
    rw [Option.some_inj, ← toNat_inj]
    exact ⟨fun e => ⟨h, e.symm⟩, fun e => e.2.symm⟩
  · rename_i h
    exact ⟨(nomatch ·), fun e => absurd e.1 h⟩

theorem sub?_eq_none {a b : Quantity bits} : a.sub? b = none ↔ a.toNat < b.toNat := by
  unfold sub?
  split <;> rename_i h <;> simp [le_def] at * <;> omega

theorem toNat_satAdd (a b : Quantity bits) :
    (a.satAdd b).toNat = min (a.toNat + b.toNat) (2 ^ bits - 1) := rfl

theorem toNat_satMul (a b : Quantity bits) :
    (a.satMul b).toNat = min (a.toNat * b.toNat) (2 ^ bits - 1) := rfl

@[simp] theorem toNat_satSub (a b : Quantity bits) : (a.satSub b).toNat = a.toNat - b.toNat := rfl

@[simp] theorem toNat_div (a b : Quantity bits) : (a.div b).toNat = a.toNat / b.toNat := rfl

@[simp] theorem toNat_widen (a : Quantity 64) : a.widen.toNat = a.toNat := rfl

@[simp] theorem toNat_min (a b : Quantity bits) : (min a b).toNat = min a.toNat b.toNat := by
  show (if a ≤ b then a else b).toNat = _
  split <;> rename_i h <;> simp only [le_def] at h <;> omega

@[simp] theorem toNat_max (a b : Quantity bits) : (max a b).toNat = max a.toNat b.toNat := by
  show (if a ≤ b then b else a).toNat = _
  split <;> rename_i h <;> simp only [le_def] at h <;> omega

end Quantity

end EvmBank
