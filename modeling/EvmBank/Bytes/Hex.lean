import EvmBank.Bytes.Endian
import EvmBank.Text.Quoted

/-!
Byte strings in hexadecimal: two lower-case digits a byte when written, digits of either case when
read. Main statement: reading undoes writing (`decode_digits`). Texts are read byte by byte, so a
character outside ASCII counts as several wrong digits.
-/

namespace EvmBank

namespace Bytes

def ofText (s : String) : Bytes := s.toByteArray.data.toList

def toText? (bytes : Bytes) : Option String := String.fromUTF8? ⟨bytes.toArray⟩

end Bytes

inductive HexError where
  | oddLength
  | badDigit (byte : UInt8) (index : Nat)
deriving DecidableEq

/-- The wrong digit is shown as the character whose code point is the byte. -/
def HexError.message : HexError → String
  | oddLength => "Odd number of digits"
  | badDigit byte index =>
    "Invalid character " ++ Text.quotedChar (Char.ofNat byte.toNat) ++ s!" at position {index}"

namespace Hex

/-- The digit for a number below 16, as an ASCII byte. -/
def digit (n : Nat) : UInt8 := UInt8.ofNat (if n < 10 then 48 + n else 87 + n)

/-- The number that an ASCII digit of either case stands for. -/
def digitValue? (b : UInt8) : Option Nat :=
  if 48 ≤ b && b ≤ 57 then some (b.toNat - 48)
  else if 97 ≤ b && b ≤ 102 then some (b.toNat - 87)
  else if 65 ≤ b && b ≤ 70 then some (b.toNat - 55)
  else none

/-- The digits of a byte string, as ASCII bytes. -/
def digits (bytes : Bytes) : Bytes :=
  bytes.flatMap fun b => [digit (b.toNat / 16), digit (b.toNat % 16)]

def encode (bytes : Bytes) : String :=
  String.ofList ((digits bytes).map fun b => Char.ofNat b.toNat)

/-- The number at an ASCII digit, or the place of the wrong one. -/
def digitAt (index : Nat) (b : UInt8) : Except HexError Nat :=
  match digitValue? b with
  | some n => .ok n
  | none => .error (.badDigit b index)

/-- Reads pairs of digits, the first of which stands at `index`. -/
def decodePairs : (index : Nat) → Bytes → Except HexError Bytes
  | index, high :: low :: rest => do
    let h ← digitAt index high
    let l ← digitAt (index + 1) low
    let tail ← decodePairs (index + 2) rest
    return UInt8.ofNat (16 * h + l) :: tail
  | _, _ => .ok []

/-- Reads a byte string. The number of digits is checked before the digits are. -/
def decode (text : Bytes) : Except HexError Bytes :=
  if text.length % 2 = 1 then .error .oddLength else decodePairs 0 text

theorem digitValue?_digit : ∀ n < 16, digitValue? (digit n) = some n := by decide

theorem decodePairs_digits (index : Nat) (bytes : Bytes) :
    decodePairs index (digits bytes) = .ok bytes := by
  induction bytes generalizing index with
  | nil => rfl
  | cons b rest ih =>
    have hb := b.toNat_lt
    have hh : digitAt index (digit (b.toNat / 16)) = .ok (b.toNat / 16) := by
      simp [digitAt, digitValue?_digit _ (show b.toNat / 16 < 16 by omega)]
    have hl : digitAt (index + 1) (digit (b.toNat % 16)) = .ok (b.toNat % 16) := by
      simp [digitAt, digitValue?_digit _ (show b.toNat % 16 < 16 by omega)]
    have hv : UInt8.ofNat (16 * (b.toNat / 16) + b.toNat % 16) = b := by
      rw [Nat.div_add_mod, UInt8.ofNat_toNat]
    have ih' := ih (index + 2)
    simp only [digits] at ih'
    simp only [digits, List.flatMap_cons, List.cons_append, List.nil_append, decodePairs]
    simp [hh, hl, ih', hv, bind, Except.bind, pure, Except.pure]

theorem length_digits (bytes : Bytes) : (digits bytes).length = 2 * bytes.length := by
  induction bytes with
  | nil => rfl
  | cons b rest ih => simp [digits] at ih ⊢; omega

/-- Reading undoes writing. -/
theorem decode_digits (bytes : Bytes) : decode (digits bytes) = .ok bytes := by
  have : ¬ (digits bytes).length % 2 = 1 := by rw [length_digits]; omega
  simp [decode, this, decodePairs_digits]

end Hex

end EvmBank
