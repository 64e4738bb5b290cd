import EvmBank.SortedMap

/-!
# Totals over a map

The total of a weight over all entries. Writing one entry changes it by the difference of two
weights (`total_alter`), whether there was an entry before or not.
-/

namespace EvmBank.SortedMap

variable {κ ν : Type} [Ord κ]

def totalEntries (w : κ → ν → Nat) : List (κ × ν) → Nat
  | [] => 0
  | (k, v) :: rest => w k v + totalEntries w rest

/-- The sum of the weights of all entries. -/
def total (m : SortedMap κ ν) (w : κ → ν → Nat) : Nat := totalEntries w m.entries

/-- No entry stands in front of the first one. -/
theorem lookupEntry_of_lt {k : κ} {l : List (κ × ν)}
    (h : ∀ e ∈ l, compare k e.1 = .lt) : lookupEntry k l = none := by
  induction l with
  | nil => rfl
  | cons e rest ih =>
    have he := h e List.mem_cons_self
    rw [lookupEntry, he, if_neg (by decide)]
    exact ih fun e' he' => h e' (List.mem_cons_of_mem _ he')

variable [Std.TransOrd κ] [Std.LawfulEqOrd κ] {w : κ → ν → Nat}

theorem totalEntries_insertEntry (k : κ) (v : ν) {l : List (κ × ν)}
    (hl : l.Pairwise fun a b => compare a.1 b.1 = .lt) :
    totalEntries w (insertEntry k v l) + ((lookupEntry k l).map (w k)).getD 0 =
      totalEntries w l + w k v := by
  induction l with
  | nil => simp [insertEntry, lookupEntry, totalEntries]
  | cons e rest ih =>
    obtain ⟨k₁, v₁⟩ := e
    obtain ⟨hfirst, hrest⟩ := List.pairwise_cons.mp hl
    simp only [insertEntry, lookupEntry]
    cases hk : compare k k₁ with
    | lt =>
      have hnone : lookupEntry k rest = none :=
        lookupEntry_of_lt fun e he => Std.TransCmp.lt_trans hk (hfirst e he)
      simp [totalEntries, hnone]
      omega
    | eq =>
      cases Std.LawfulEqCmp.eq_of_compare hk
      simp [totalEntries]
      omega
    | gt =>
      have := ih hrest
      simp only [totalEntries, reduceCtorEq, if_false]
      omega

omit [Std.TransOrd κ] in
theorem totalEntries_filter (k : κ) {l : List (κ × ν)}
    (hl : l.Pairwise fun a b => compare a.1 b.1 = .lt) :
    totalEntries w (l.filter fun e => compare k e.1 != .eq) +
        ((lookupEntry k l).map (w k)).getD 0 =
      totalEntries w l := by
  induction l with
  | nil => rfl
  | cons e rest ih =>
    obtain ⟨k₁, v₁⟩ := e
    obtain ⟨hfirst, hrest⟩ := List.pairwise_cons.mp hl
    have := ih hrest
    by_cases hk : compare k k₁ = .eq
    · cases Std.LawfulEqCmp.eq_of_compare hk
      have hnone : lookupEntry k rest = none := lookupEntry_of_lt hfirst
      rw [hnone] at this
      simp [lookupEntry, totalEntries] at this ⊢
      omega
    · simp [lookupEntry, totalEntries, hk]
      omega

/-- Writing one entry changes the total by its weight, less that of what was there. -/
theorem total_alter (m : SortedMap κ ν) (k : κ) (v? : Option ν) :
    (m.alter k v?).total w + ((m.get? k).map (w k)).getD 0 =
      m.total w + (v?.map (w k)).getD 0 := by
  cases v? with
  | none => exact totalEntries_filter k m.sorted
  | some v => exact totalEntries_insertEntry k v m.sorted

end EvmBank.SortedMap
