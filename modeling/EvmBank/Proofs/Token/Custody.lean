import EvmBank.Proofs.SortedMap.Totals
import EvmBank.Proofs.Token.Calls

/-!
# Coins that are not the caller's

An account's coins less what its grants still let others spend of them, its unpledged coins, can
only grow by what others request of tokens: what is spent under a grant is taken off its limit
(`Performs.unpledged_le`). Expired grants count in full, as they stand in the books. Balances go down
by transfers under a grant alone (`Performs.spends`).
-/

namespace EvmBank

/-- What a grant, if there is one, lets others spend, be it expired or not. -/
def Grant.promised (d : Denom) : Option Grant → Nat
  | some g => (g.limitFor d).toNat
  | none => 0

theorem Grant.promised_some (d : Denom) (g : Grant) :
    promised d (some g) = (g.limitFor d).toNat := rfl

theorem Grant.promised_kept (d : Denom) (g : Grant) :
    promised d (if g.spendLimit.isEmpty then none else some g) = (g.limitFor d).toNat := by
  split
  · rw [limitFor_of_isEmpty ‹_›]
    exact Quantity.toNat_zero.symm
  · rfl

namespace Books

/-- What the grants of an account let others spend of a denomination, all together. -/
def pledged (b : Books) (a : Address) (d : Denom) : Nat :=
  b.grants.total fun parties g => if parties.1 = a then (g.limitFor d).toNat else 0

/-- The coins of an account that no grant reaches; fewer than none, if grants promise more than
there is. -/
def unpledged (b : Books) (a : Address) (d : Denom) : Int :=
  (b.balance a d).toNat - b.pledged a d

variable {b b' : Books} {a : Address} {d : Denom}

theorem balance_of_balances (h : b'.balances = b.balances) : b'.balance a d = b.balance a d := by
  unfold balance
  rw [h]

theorem pledged_of_grants (h : b'.grants = b.grants) : b'.pledged a d = b.pledged a d := by
  unfold pledged
  rw [h]

theorem unpledged_of_moves {source target : Address} {d' : Denom} {amount : Amount}
    (h : b.Moves b' source target d' amount) :
    b'.unpledged a d + (if a = source ∧ d = d' then amount.toNat else 0 : Nat) =
      b.unpledged a d + (if a = target ∧ d = d' then amount.toNat else 0 : Nat) := by
  have hb := h.balance a d
  have hp := pledged_of_grants (a := a) (d := d) h.grants
  unfold unpledged
  omega

/-- Writing one grant changes what its granter has pledged by the difference of the limits. -/
theorem pledged_alter {owner spender : Address} {g? : Option Grant}
    (h : b'.grants = b.grants.alter (owner, spender) g?) :
    b'.pledged a d + (if owner = a then Grant.promised d (b.grant? owner spender) else 0) =
      b.pledged a d + if owner = a then Grant.promised d g? else 0 := by
  have hweight (g? : Option Grant) :
      (g?.map fun g => if owner = a then (g.limitFor d).toNat else 0).getD 0 =
        if owner = a then Grant.promised d g? else 0 := by
    cases g? with
    | none => exact (ite_self 0).symm
    | some g => rfl
  unfold pledged
  rw [h, ← hweight, ← hweight]
  exact SortedMap.total_alter b.grants (owner, spender) g?

/-- Only the granter's pledges change, and coins are where they were. -/
theorem unpledged_alter_of_ne {owner spender : Address} {g? : Option Grant}
    (h : b'.grants = b.grants.alter (owner, spender) g?) (hbalances : b'.balances = b.balances)
    (ha : a ≠ owner) : b'.unpledged a d = b.unpledged a d := by
  have := pledged_alter (a := a) (d := d) h
  rw [if_neg ha.symm, if_neg ha.symm] at this
  unfold unpledged
  rw [balance_of_balances hbalances]
  omega

end Books

namespace Token

variable {t : Token} {l l' : Ledger} {caller a : Address} {time : Seconds} {r : TokenRequest}
  {out : Bytes} {d : Denom}

/-- Spending under a grant takes as much off the pledges of its granter as off the coins. -/
theorem unpledged_spend {source target : Address} {amount left : Amount} {g : Grant}
    (moved : Ledger) (hm : l.books.Moves moved.books source target t.denom amount)
    (hg : l.grant? source caller = some g) (hn : (g.limitFor t.denom).sub? amount = some left)
    (a : Address) (d : Denom) :
    l.books.unpledged a d ≤
      (moved.keepGrant source caller (g.setLimit t.denom left)).books.unpledged a d := by
  have hmoved := Books.unpledged_of_moves (a := a) (d := d) hm
  have hg : moved.books.grant? source caller = some g := by
    rw [← hg]
    exact congrArg (SortedMap.get? · (source, caller)) hm.grants
  have hparties : g.parties = (source, caller) := Books.parties_of_grant? hg
  have hgrants := Ledger.grants_keepGrant (l := moved) (g := g.setLimit t.denom left) hparties
  have hbalances := Ledger.balances_keepGrant moved source caller (g.setLimit t.denom left)
  by_cases hs : a = source
  · subst hs
    have hp := Books.pledged_alter (a := a) (d := d) hgrants
    rw [if_pos rfl, if_pos rfl, hg, Grant.promised_some, Grant.promised_kept,
      Grant.limitFor_setLimit] at hp
    have hsame := Books.balance_of_balances (a := a) (d := d) hbalances
    obtain ⟨hle, hleft⟩ := Quantity.sub?_eq_some.mp hn
    unfold Books.unpledged at hmoved ⊢
    rw [hsame]
    by_cases hd : d = t.denom
    · subst hd
      simp only [and_true, if_true] at hp hmoved
      omega
    · simp only [hd, and_false, if_false] at hp hmoved
      omega
  · have hsame := Books.unpledged_alter_of_ne (d := d) hgrants hbalances hs
    simp only [hs, false_and, if_false] at hmoved
    omega

/-- A grant of the caller is none of the account's. -/
theorem unpledged_keepGrant {spender : Address} {g : Grant} {n : Amount}
    (hg : liveGrant? l caller spender time = some g) (ha : a ≠ caller) :
    (l.keepGrant caller spender (g.setLimit t.denom n)).books.unpledged a d =
      l.books.unpledged a d := by
  have hparties : g.parties = (caller, spender) :=
    Books.parties_of_grant? (b := l.books) (liveGrant?_eq_some hg).1
  exact Books.unpledged_alter_of_ne (Ledger.grants_keepGrant (g := g.setLimit t.denom n) hparties)
    (Ledger.balances_keepGrant ..) ha

/-- What others request never lowers the unpledged coins of an account. -/
theorem Performs.unpledged_le (h : t.Performs caller time l r out l') (ha : a ≠ caller)
    (d : Denom) : l.books.unpledged a d ≤ l'.books.unpledged a d := by
  have keep {moved : Ledger} {target : Address} {n : Amount}
      (hm : l.transfer caller target t.denom n = .ok moved) :
      l.books.unpledged a d ≤ moved.books.unpledged a d := by
    have hmoved := Books.unpledged_of_moves (a := a) (d := d) (Ledger.moves_of_transfer hm)
    simp only [ha, false_and, if_false] at hmoved
    omega
  have same {b : Books} {spender : Address} {g? : Option Grant}
      (hg : b.grants = l.books.grants.alter (caller, spender) g?)
      (hb : b.balances = l.books.balances) : l.books.unpledged a d ≤ b.unpledged a d :=
    Int.le_of_eq (Books.unpledged_alter_of_ne hg hb ha).symm
  cases h with
  | transfer hm | transferOwn hm =>
    rw [Ledger.books_addLog]
    exact keep hm
  | @transferGranted source target amount left g moved _ hg _ hn hm =>
    have hmoves := Ledger.moves_of_transfer hm
    exact unpledged_spend (moved.addLog (t.event transferTopic source target amount.toNat)) hmoves
      (liveGrant?_eq_some hg).1 hn a d
  | approveLive hg | increase hg | decrease hg =>
    rw [Ledger.books_addLog]
    exact Int.le_of_eq (unpledged_keepGrant hg ha).symm
  | @approveNothing spender _ _ _ =>
    rw [Ledger.books_addLog, Ledger.books_revokeGrant]
    exact same (l.books.grants_revokeGrant caller spender) rfl
  | @approveNew spender amount _ _ =>
    rw [Ledger.books_addLog]
    exact same (l.books.grants_setGrant (.single caller spender t.denom amount _)) rfl
  | allowance | balanceOf | totalSupply => exact Int.le_refl _

/-- If what another requests lowers a balance, it is a transfer under a grant that has not expired,
of some coins and no more than the grant lets be spent. -/
theorem Performs.spends (h : t.Performs caller time l r out l') (ha : a ≠ caller)
    (hlow : (l'.balance a d).toNat < (l.balance a d).toNat) :
    d = t.denom ∧ ∃ target amount g, r = .transferFrom a target amount ∧
      l.grant? a caller = some g ∧ g.isExpired time = false ∧ g.allows target = true ∧
      0 < amount.toNat ∧ amount ≤ g.limitFor t.denom := by
  have same {b : Books} (hb : b.balances = l.books.balances)
      (hlow : (b.balance a d).toNat < (l.balance a d).toNat) : False := by
    rw [Books.balance_of_balances hb] at hlow
    exact Nat.lt_irrefl _ hlow
  have moved {b : Books} {source target : Address} {n : Amount}
      (hm : l.books.Moves b source target t.denom n)
      (hlow : (b.balance a d).toNat < (l.balance a d).toNat) :
      a = source ∧ d = t.denom ∧ 0 < n.toNat := by
    have hb := hm.balance a d
    unfold Ledger.balance at hlow
    by_cases hs : a = source ∧ d = t.denom
    · rw [if_pos hs] at hb
      exact ⟨hs.1, hs.2, by omega⟩
    · rw [if_neg hs] at hb
      omega
  cases h with
  | transfer hm | transferOwn hm =>
    exact absurd (moved (Ledger.moves_of_transfer hm) hlow).1 ha
  | @transferGranted source target amount left g _ _ hg hallows hn hm =>
    unfold Ledger.balance at hlow
    rw [Books.balance_of_balances (Ledger.balances_keepGrant ..)] at hlow
    obtain ⟨rfl, hd, hamount⟩ := moved (Ledger.moves_of_transfer hm) hlow
    obtain ⟨hgrant, hlive⟩ := liveGrant?_eq_some hg
    have hlimit := (Quantity.sub?_eq_some.mp hn).1
    exact ⟨hd, target, amount, g, rfl, hgrant, hlive, hallows, hamount, hlimit⟩
  | approveLive | increase | decrease =>
    exact (same (Ledger.balances_keepGrant ..) hlow).elim
  | @approveNothing spender _ _ _ =>
    have hb := congrArg Books.balances (Ledger.books_revokeGrant l caller spender)
    exact (same hb hlow).elim
  | approveNew => exact (same rfl hlow).elim
  | allowance | balanceOf | totalSupply => exact absurd hlow (Nat.lt_irrefl _)

variable {call : PrecompileCall} {served : PrecompileOutput}

theorem Served.unpledged_le (h : t.Served call l r served l') (ha : a ≠ call.caller) (d : Denom) :
    l.books.unpledged a d ≤ l'.books.unpledged a d := by
  obtain ⟨ran, hp, hc⟩ := h.performs
  rw [Ledger.books_of_commit hc]
  exact hp.unpledged_le ha d

theorem Served.spends (h : t.Served call l r served l') (ha : a ≠ call.caller)
    (hlow : (l'.balance a d).toNat < (l.balance a d).toNat) :
    d = t.denom ∧ ∃ target amount g, r = .transferFrom a target amount ∧
      l.grant? a call.caller = some g ∧ g.isExpired call.time = false ∧ g.allows target = true ∧
      0 < amount.toNat ∧ amount ≤ g.limitFor t.denom := by
  obtain ⟨ran, hp, hc⟩ := h.performs
  obtain ⟨_, _, -, -, rfl⟩ := Ledger.commit_eq_ok.mp hc
  exact hp.spends ha hlow

end Token

end EvmBank
