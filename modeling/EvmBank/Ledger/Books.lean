import EvmBank.Grant

/-!
The books of the ledger: which accounts exist, what they hold, and what is kept for them. Every
change is a write of one cell, and putting back what a cell held before undoes it
(`put_current`).
-/

namespace EvmBank

/-- What the ledger knows about accounts and coins. -/
@[ext]
structure Books where
  accounts : SortedMap Address Unit
  balances : SortedMap (Address × Denom) Amount
  supplies : SortedMap Denom Amount
  nonces : SortedMap Address Nonce
  codes : SortedMap Address Bytes
  /-- The grants, by granter and grantee. -/
  grants : SortedMap (Address × Address) Grant
  /-- Every grant stands under its own granter and grantee. -/
  grants_filed : ∀ key g, grants.get? key = some g → g.parties = key
deriving DecidableEq

/-- A cell of the books with its content; `none` stands for an empty cell. -/
inductive Cell where
  | account (address : Address) (content : Option Unit)
  | balance (address : Address) (denom : Denom) (content : Option Amount)
  | supply (denom : Denom) (content : Option Amount)
  | nonce (address : Address) (content : Option Nonce)
  | code (address : Address) (content : Option Bytes)
  | grant (granter grantee : Address) (content : Option Grant)
    (filed : ∀ g, content = some g → g.parties = (granter, grantee))

namespace Cell

theorem filed_some (g : Grant) : ∀ g', some g = some g' → g'.parties = (g.granter, g.grantee) :=
  fun _ h => Option.some.inj h ▸ rfl

theorem filed_none (granter grantee : Address) :
    ∀ g : Grant, none = some g → g.parties = (granter, grantee) :=
  fun _ h => nomatch h

end Cell

namespace Books

def empty : Books := ⟨.empty, .empty, .empty, .empty, .empty, .empty, fun _ _ h => nomatch h⟩

instance : Inhabited Books := ⟨empty⟩

def put (b : Books) : Cell → Books
  | .account a content => { b with accounts := b.accounts.alter a content }
  | .balance a d content => { b with balances := b.balances.alter (a, d) content }
  | .supply d content => { b with supplies := b.supplies.alter d content }
  | .nonce a content => { b with nonces := b.nonces.alter a content }
  | .code a content => { b with codes := b.codes.alter a content }
  | .grant granter grantee content filed =>
    { b with
      grants := b.grants.alter (granter, grantee) content
      grants_filed := fun key g h => by
        rw [SortedMap.get?_alter] at h
        split at h
        · rename_i hkey
          exact hkey ▸ filed g h
        · exact b.grants_filed key g h }

/-- The cell at the same place, with what it holds now. -/
def current (b : Books) : Cell → Cell
  | .account a _ => .account a (b.accounts.get? a)
  | .balance a d _ => .balance a d (b.balances.get? (a, d))
  | .supply d _ => .supply d (b.supplies.get? d)
  | .nonce a _ => .nonce a (b.nonces.get? a)
  | .code a _ => .code a (b.codes.get? a)
  | .grant granter grantee _ _ =>
    .grant granter grantee (b.grants.get? (granter, grantee)) (b.grants_filed (granter, grantee))

/-- Whether an account was ever opened. -/
def isOpen (b : Books) (a : Address) : Bool := b.accounts.contains a

/-- The coins of one denomination that an account holds. -/
def balance (b : Books) (a : Address) (d : Denom) : Amount := b.balances.getD (a, d) 0

/-- The coins of one denomination that were issued. -/
def supply (b : Books) (d : Denom) : Amount := b.supplies.getD d 0

def nonce (b : Books) (a : Address) : Nonce := b.nonces.getD a 0

/-- The code of a contract; that of any other account is empty. -/
def code (b : Books) (a : Address) : Bytes := b.codes.getD a []

def grant? (b : Books) (granter grantee : Address) : Option Grant := b.grants.get? (granter, grantee)

theorem alter_alter_get? {κ ν : Type} [Ord κ] [Std.TransOrd κ] [Std.LawfulEqOrd κ] [DecidableEq κ]
    (m : SortedMap κ ν) (k : κ) (v? : Option ν) : (m.alter k v?).alter k (m.get? k) = m := by
  refine SortedMap.ext_get? fun k' => ?_
  rw [SortedMap.get?_alter, SortedMap.get?_alter]
  by_cases h : k' = k <;> simp [h]

/-- Putting back what a cell held undoes a write of it. -/
theorem put_current (b : Books) (c : Cell) : (b.put c).put (b.current c) = b := by
  cases c <;> simp [put, current, alter_alter_get?]

theorem alter_get? {κ ν : Type} [Ord κ] [Std.TransOrd κ] [Std.LawfulEqOrd κ] [DecidableEq κ]
    (m : SortedMap κ ν) (k : κ) : m.alter k (m.get? k) = m := by
  refine SortedMap.ext_get? fun k' => ?_
  rw [SortedMap.get?_alter]
  split
  · rename_i h
    rw [h]
  · rfl

/-- Writing what a cell holds changes nothing. -/
theorem put_of_current {b : Books} {c : Cell} (h : b.current c = c) : b.put c = b := by
  rw [← h]
  cases c <;> simp [put, current, alter_get?]

end Books

end EvmBank
