import EvmBank.Ledger

/-!
# Operations on the books alone

What the operations of the ledger do to the books, without scopes and a journal. The ledger's own
operations have the same effect on its books (`books_transfer` and its like), and leave the buffered
logs as they are.
-/

namespace EvmBank

namespace Books

def openAccount (b : Books) (a : Address) : Books := b.put (.account a (some ()))

def mint (b : Books) (a : Address) (d : Denom) (amount : Amount) : Books :=
  ((b.openAccount a).put (.balance a d (some ((b.balance a d).satAdd amount)))).put
    (.supply d (some ((b.supply d).satAdd amount)))

/-- The books after coins were moved. -/
def transfer (b : Books) (source target : Address) (d : Denom) (amount : Amount) :
    Except LedgerError Books :=
  let held := b.balance source d
  if held < amount then .error (.insufficientFunds source d amount held)
  else if source = target then .ok b
  else
    match (b.balance target d).add? amount with
    | none => .error .overflow
    | some credited =>
      .ok (((b.openAccount target).put (.balance source d (some (held.satSub amount)))).put
        (.balance target d (some credited)))

def setNonce (b : Books) (a : Address) (n : Nonce) : Books :=
  (b.openAccount a).put (.nonce a (some n))

def setCode (b : Books) (a : Address) (code : Bytes) : Books :=
  (b.openAccount a).put (.code a (some code))

def setGrant (b : Books) (g : Grant) : Books :=
  b.put (.grant g.granter g.grantee (some g) (Cell.filed_some g))

def revokeGrant (b : Books) (granter grantee : Address) : Books :=
  b.put (.grant granter grantee none (Cell.filed_none granter grantee))

end Books

namespace Ledger

/-! ## Books and logs after an operation -/

theorem books_write (l : Ledger) (c : Cell) : (l.write c).books = l.books.put c := rfl

theorem books_addLog (l : Ledger) (log : Log) : (l.addLog log).books = l.books := rfl

theorem books_openAccount (l : Ledger) (a : Address) :
    (l.openAccount a).books = l.books.openAccount a := by
  unfold openAccount
  split
  · rename_i h
    refine (Books.put_of_current ?_).symm
    obtain ⟨⟨⟩, hget⟩ := Option.isSome_iff_exists.mp h
    exact congrArg (Cell.account a) hget
  · rfl

theorem books_mint (l : Ledger) (a : Address) (d : Denom) (amount : Amount) :
    (l.mint a d amount).books = l.books.mint a d amount := by
  simp only [mint, Books.mint, books_write, books_openAccount, balance, supply]

theorem books_setNonce (l : Ledger) (a : Address) (n : Nonce) :
    (l.setNonce a n).books = l.books.setNonce a n := by
  simp only [setNonce, Books.setNonce, books_write, books_openAccount]

theorem books_setCode (l : Ledger) (a : Address) (code : Bytes) :
    (l.setCode a code).books = l.books.setCode a code := by
  simp only [setCode, Books.setCode, books_write, books_openAccount]

theorem books_revokeGrant (l : Ledger) (granter grantee : Address) :
    (l.revokeGrant granter grantee).books = l.books.revokeGrant granter grantee := by
  unfold revokeGrant
  split
  · rfl
  · rename_i h
    refine (Books.put_of_current ?_).symm
    simp only [Option.not_isSome_iff_eq_none, grant?, Books.grant?] at h
    simp [Books.current, h]

theorem books_transfer (l : Ledger) (source target : Address) (d : Denom) (amount : Amount) :
    (l.transfer source target d amount).map Ledger.books =
      l.books.transfer source target d amount := by
  simp only [transfer, Books.transfer, balance]
  generalize l.books.balance source d = held
  by_cases h : held < amount
  · rw [Quantity.sub?_eq_none.mpr h, if_pos h]
    rfl
  · rw [Quantity.sub?_eq_some.mpr ⟨Nat.le_of_not_lt h, Quantity.toNat_satSub held amount⟩, if_neg h]
    dsimp only
    split
    · rfl
    · cases (l.books.balance target d).add? amount with
      | none => rfl
      | some credited =>
        simp only [Except.map, books_write, books_openAccount]

theorem logs_openAccount (l : Ledger) (a : Address) : (l.openAccount a).logs = l.logs := by
  unfold openAccount
  split <;> rfl

theorem logs_setNonce (l : Ledger) (a : Address) (n : Nonce) : (l.setNonce a n).logs = l.logs :=
  logs_openAccount l a

theorem logs_setCode (l : Ledger) (a : Address) (code : Bytes) : (l.setCode a code).logs = l.logs :=
  logs_openAccount l a

theorem logs_revokeGrant (l : Ledger) (granter grantee : Address) :
    (l.revokeGrant granter grantee).logs = l.logs := by
  unfold revokeGrant
  split <;> rfl

theorem logs_transfer {l l' : Ledger} {source target : Address} {d : Denom} {amount : Amount}
    (h : l.transfer source target d amount = .ok l') : l'.logs = l.logs := by
  simp only [transfer] at h
  split at h
  · cases h
  · split at h
    · cases h
      rfl
    · split at h
      · cases h
      · cases h
        exact logs_openAccount l target

/-! ## The logs have no part in it -/

theorem openAccount_with_logs (l : Ledger) (logs : List Log) (a : Address) :
    { l with logs }.openAccount a = { l.openAccount a with logs } := by
  have hsame : { l with logs }.accountExists a = l.accountExists a := rfl
  rw [openAccount, openAccount, hsame]
  cases l.accountExists a <;> rfl

/-- The buffered logs have no part in moving coins. -/
theorem transfer_with_logs (l : Ledger) (logs : List Log) (source target : Address) (d : Denom)
    (amount : Amount) :
    { l with logs }.transfer source target d amount =
      (l.transfer source target d amount).map fun l' => { l' with logs } := by
  have hsame (a : Address) : { l with logs }.balance a d = l.balance a d := rfl
  simp only [transfer, hsame, openAccount_with_logs]
  cases (l.balance source d).sub? amount with
  | none => rfl
  | some remaining =>
    dsimp only
    split
    · rfl
    · cases (l.balance target d).add? amount <;> rfl

end Ledger

end EvmBank
