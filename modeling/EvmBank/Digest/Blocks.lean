import EvmBank.Bytes.Endian

/-!
Cutting a byte string into blocks of one size.
-/

namespace EvmBank.Digest

/-- The blocks of `size` elements, in order; the last one may be shorter. Size zero gives none. -/
def blocks {α : Type} (size : Nat) (l : List α) : List (List α) :=
  if h : 0 < size ∧ l ≠ [] then
    have : (l.drop size).length < l.length := by
      have := List.length_pos_iff.2 h.2
      simp only [List.length_drop]
      omega
    l.take size :: blocks size (l.drop size)
  else []
termination_by l.length

end EvmBank.Digest
