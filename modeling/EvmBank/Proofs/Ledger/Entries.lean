import EvmBank.Proofs.Ledger.Operations

/-!
# What the books say after an operation

Each write changes one entry, and an operation the entries that its name says. Moving coins is said
in a form without differences (`Moves`), in which moving them to where they are is no special case.
-/

namespace EvmBank

/-! ## Limits of a grant -/

namespace Grant

theorem limitFor_setLimit (g : Grant) (d d' : Denom) (n : Amount) :
    (g.setLimit d n).limitFor d' = if d' = d then n else g.limitFor d' := by
  unfold setLimit limitFor
  dsimp only
  split
  · rename_i hz
    rw [SortedMap.getD, SortedMap.get?_erase]
    split
    · exact (Quantity.isZero_iff.mp hz).symm
    · rfl
  · exact SortedMap.getD_insert g.spendLimit d d' n 0

theorem limitFor_single (granter grantee : Address) (d d' : Denom) (n : Amount)
    (expiration : Option Seconds) :
    (single granter grantee d n expiration).limitFor d' = if d' = d then n else 0 :=
  SortedMap.getD_insert .empty d d' n 0

/-- A grant without entries has no limit left. -/
theorem limitFor_of_isEmpty {g : Grant} (h : g.spendLimit.isEmpty = true) (d : Denom) :
    g.limitFor d = 0 := by
  have hnil : g.spendLimit.entries = [] := List.isEmpty_iff.mp h
  rw [limitFor, SortedMap.getD, SortedMap.get?, hnil]
  rfl

end Grant

namespace Books

variable {b b' : Books}

/-! ## Balances -/

@[simp] theorem balance_put_balance (b : Books) (a a' : Address) (d d' : Denom) (n : Amount) :
    (b.put (.balance a d (some n))).balance a' d' =
      if a' = a ∧ d' = d then n else b.balance a' d' := by
  simp only [balance, put, SortedMap.getD, SortedMap.get?_alter, Prod.mk.injEq]
  split <;> rfl

@[simp] theorem balance_openAccount (b : Books) (a a' : Address) (d : Denom) :
    (b.openAccount a).balance a' d = b.balance a' d := rfl

/-- What moving coins does to the books. -/
structure Moves (b b' : Books) (source target : Address) (d : Denom) (amount : Amount) : Prop where
  funds : amount.toNat ≤ (b.balance source d).toNat
  balance : ∀ a d', (b'.balance a d').toNat + (if a = source ∧ d' = d then amount.toNat else 0) =
    (b.balance a d').toNat + if a = target ∧ d' = d then amount.toNat else 0
  grants : b'.grants = b.grants
  supplies : b'.supplies = b.supplies

theorem moves_of_transfer {source target : Address} {d : Denom} {amount : Amount}
    (h : b.transfer source target d amount = .ok b') : b.Moves b' source target d amount := by
  simp only [transfer] at h
  split at h
  · cases h
  · rename_i hfunds
    have hfunds := Nat.le_of_not_lt hfunds
    split at h
    · rename_i hst
      cases h
      exact ⟨hfunds, fun a d' => by rw [hst], rfl, rfl⟩
    · rename_i hst
      split at h
      · cases h
      · rename_i credited hc
        cases h
        refine ⟨hfunds, fun a d' => ?_, rfl, rfl⟩
        have hc := Quantity.add?_eq_some.mp hc
        simp only [balance_put_balance, balance_openAccount]
        by_cases ht : a = target ∧ d' = d
        · obtain ⟨rfl, rfl⟩ := ht
          simp [hc, Ne.symm hst]
        · by_cases hs : a = source ∧ d' = d
          · obtain ⟨rfl, rfl⟩ := hs
            simp [hst, Nat.sub_add_cancel hfunds]
          · simp [ht, hs]

/-- Nothing moved is a movement of no coins. -/
theorem Moves.of_zero {source target : Address} {d : Denom} {amount : Amount}
    (h : amount.toNat = 0) : b.Moves b source target d amount :=
  ⟨h ▸ Nat.zero_le _, fun _ _ => by simp [h], rfl, rfl⟩

/-! ## Accounts, nonces and codes -/

theorem isOpen_openAccount (b : Books) (a a' : Address) :
    (b.openAccount a).isOpen a' = (decide (a' = a) || b.isOpen a') :=
  SortedMap.contains_insert b.accounts a a' ()

/-- No contract stands at an account, and none has been counted for it. -/
structure Vacant (b : Books) (a : Address) : Prop where
  code : b.code a = []
  nonce : b.nonce a = 0

theorem nonce_setNonce (b : Books) (a a' : Address) (n : Nonce) :
    (b.setNonce a n).nonce a' = if a' = a then n else b.nonce a' :=
  SortedMap.getD_insert b.nonces a a' n 0

theorem code_setCode (b : Books) (a a' : Address) (code : Bytes) :
    (b.setCode a code).code a' = if a' = a then code else b.code a' :=
  SortedMap.getD_insert b.codes a a' code []

/-- Moving coins changes no nonce and no code, and opens no account but the one that receives
them. -/
theorem frame_of_transfer {source target : Address} {d : Denom} {amount : Amount}
    (h : b.transfer source target d amount = .ok b') :
    b'.nonces = b.nonces ∧ b'.codes = b.codes ∧
      (b'.accounts = b.accounts ∨ b'.accounts = (b.openAccount target).accounts) := by
  simp only [transfer] at h
  split at h
  · cases h
  · split at h
    · cases h
      exact ⟨rfl, rfl, .inl rfl⟩
    · split at h
      · cases h
      · cases h
        exact ⟨rfl, rfl, .inr rfl⟩

/-- Coins that go to an open account open none. -/
theorem isOpen_of_transfer {source target : Address} {d : Denom} {amount : Amount}
    (h : b.transfer source target d amount = .ok b') (ht : b.isOpen target = true) (a : Address) :
    b'.isOpen a = b.isOpen a := by
  obtain ⟨-, -, haccounts | haccounts⟩ := frame_of_transfer h
  · exact congrArg (·.contains a) haccounts
  · have hopened : b'.isOpen a = (b.openAccount target).isOpen a :=
      congrArg (·.contains a) haccounts
    rw [hopened, isOpen_openAccount]
    by_cases ha : a = target
    · simp [ha, ht]
    · simp [ha]

/-- Coins of an open account open the one that receives them, at most. -/
theorem isOpen_of_transfer_of_isOpen {source target : Address} {d : Denom} {amount : Amount}
    (h : b.transfer source target d amount = .ok b') (hs : b.isOpen source = true) (a : Address) :
    b'.isOpen a = (decide (a = target) || b.isOpen a) := by
  simp only [transfer] at h
  split at h
  · cases h
  · split at h
    · rename_i hst
      cases h
      by_cases ha : a = target
      · simp [ha, ← hst, hs]
      · simp [ha]
    · split at h
      · cases h
      · cases h
        exact isOpen_openAccount b target a

/-! ## Grants -/

theorem parties_of_grant? {owner spender : Address} {g : Grant}
    (h : b.grant? owner spender = some g) : g.parties = (owner, spender) :=
  b.grants_filed (owner, spender) g h

theorem grant?_of_grants (h : b'.grants = b.grants) {owner spender : Address} :
    b'.grant? owner spender = b.grant? owner spender := by
  rw [grant?, h, grant?]

theorem grants_setGrant (b : Books) (g : Grant) :
    (b.setGrant g).grants = b.grants.alter g.parties (some g) := rfl

theorem grants_revokeGrant (b : Books) (granter grantee : Address) :
    (b.revokeGrant granter grantee).grants = b.grants.alter (granter, grantee) none := rfl

theorem grant?_setGrant (b : Books) (g : Grant) (owner spender : Address) :
    (b.setGrant g).grant? owner spender =
      if (owner, spender) = g.parties then some g else b.grant? owner spender :=
  SortedMap.get?_alter b.grants g.parties (owner, spender) (some g)

theorem grant?_revokeGrant (b : Books) (granter grantee owner spender : Address) :
    (b.revokeGrant granter grantee).grant? owner spender =
      if (owner, spender) = (granter, grantee) then none else b.grant? owner spender :=
  SortedMap.get?_alter b.grants (granter, grantee) (owner, spender) none

end Books

namespace Ledger

theorem books_of_transfer {l l' : Ledger} {source target : Address} {d : Denom} {amount : Amount}
    (h : l.transfer source target d amount = .ok l') :
    l.books.transfer source target d amount = .ok l'.books := by
  have hb := books_transfer l source target d amount
  rw [h] at hb
  exact hb.symm

theorem moves_of_transfer {l l' : Ledger} {source target : Address} {d : Denom} {amount : Amount}
    (h : l.transfer source target d amount = .ok l') :
    l.books.Moves l'.books source target d amount :=
  Books.moves_of_transfer (books_of_transfer h)

end Ledger

end EvmBank
