import EvmBank.Precompile.Table
import EvmBank.Proofs.Ledger.Entries
import EvmBank.Proofs.Ledger.Scopes
import EvmBank.Proofs.Token.Requests

/-!
# Calls of the tokens of a block

The scope around a call always closes: a call that fails gives back the ledger as it was, with all
that it buffers and has open, and one that succeeds has performed a request (`dispatch_cases`).
Either way a scope that was open before is still open after it (`dispatch_within`).
-/

namespace EvmBank

open Fallible Ledger

/-! ## Keeping a grant -/

namespace Ledger

theorem Grows.keepGrant {l l' : Ledger} (h : l.Grows l') (owner spender : Address)
    (g : Grant) : l.Grows (l'.keepGrant owner spender g) := by
  unfold Ledger.keepGrant
  split
  · exact h.revokeGrant owner spender
  · exact h.setGrant g

variable {l : Ledger} {owner spender : Address} {g : Grant}

theorem logs_keepGrant (l : Ledger) (owner spender : Address) (g : Grant) :
    (l.keepGrant owner spender g).logs = l.logs := by
  unfold keepGrant
  split
  · exact logs_revokeGrant l owner spender
  · rfl

/-- Keeping a grant changes nothing but grants. -/
theorem frame_keepGrant (l : Ledger) (owner spender : Address) (g : Grant) :
    let b := (l.keepGrant owner spender g).books
    b.balances = l.books.balances ∧ b.supplies = l.books.supplies ∧ b.nonces = l.books.nonces ∧
      b.codes = l.books.codes := by
  unfold keepGrant
  split
  · rw [books_revokeGrant]
    exact ⟨rfl, rfl, rfl, rfl⟩
  · exact ⟨rfl, rfl, rfl, rfl⟩

theorem balances_keepGrant (l : Ledger) (owner spender : Address) (g : Grant) :
    (l.keepGrant owner spender g).books.balances = l.books.balances :=
  (l.frame_keepGrant owner spender g).1

theorem supplies_keepGrant (l : Ledger) (owner spender : Address) (g : Grant) :
    (l.keepGrant owner spender g).books.supplies = l.books.supplies :=
  (l.frame_keepGrant owner spender g).2.1

/-- A grant without limits is dropped. -/
theorem grants_keepGrant (hg : g.parties = (owner, spender)) :
    (l.keepGrant owner spender g).books.grants = l.books.grants.alter (owner, spender)
      (if g.spendLimit.isEmpty then none else some g) := by
  unfold keepGrant
  split
  · rw [books_revokeGrant]
    rfl
  · exact congrArg (l.books.grants.alter · (some g)) hg

theorem grant?_keepGrant (hg : g.parties = (owner, spender)) (o s : Address) :
    (l.keepGrant owner spender g).books.grant? o s =
      if (o, s) = (owner, spender) then if g.spendLimit.isEmpty then none else some g
      else l.books.grant? o s := by
  rw [Books.grant?, grants_keepGrant hg]
  exact SortedMap.get?_alter _ _ _ _

end Ledger

namespace Token

variable {t : Token} {l l' : Ledger} {call : PrecompileCall}

theorem Performs.grows {caller : Address} {time : Seconds} {r : TokenRequest} {out : Bytes}
    (h : t.Performs caller time l r out l') : l.Grows l' := by
  cases h with
  | transfer hm | transferOwn hm => exact (Grows.transfer hm).addLog _
  | transferGranted _ _ _ _ hm => exact ((Grows.transfer hm).addLog _).keepGrant _ _ _
  | approveLive | increase | decrease => exact (Grows.refl.keepGrant _ _ _).addLog _
  | approveNothing => exact (Grows.refl.revokeGrant _ _).addLog _
  | approveNew => exact (Grows.refl.setGrant _).addLog _
  | allowance | balanceOf | totalSupply => exact .refl

/-- A request that was performed in a scope of its own, which was then committed. -/
structure Served (t : Token) (call : PrecompileCall) (l : Ledger) (r : TokenRequest)
    (out : PrecompileOutput) (l' : Ledger) : Prop where
  admits : Admits call r out.gasUsed
  performs : ∃ ran, t.Performs call.caller call.time l.openScope r out.output ran ∧
    ran.commit l.depth = .ok l'

theorem Served.inside {r : TokenRequest} {out : PrecompileOutput} (h : t.Served call l r out l') :
    ∃ ran, l.Inside ran ∧ ran.commit l.depth = .ok l' := by
  obtain ⟨ran, hp, hc⟩ := h.performs
  exact ⟨ran, (Inside.openScope l).grows hp.grows, hc⟩

theorem runScoped_cases (t : Token) (call : PrecompileCall) (l : Ledger) :
    (∃ cause, PrecompileTable.runScoped t call l = (.error cause, l) ∧
        t.HandsOn l.openScope cause) ∨
      ∃ r out l', PrecompileTable.runScoped t call l = (.ok out, l') ∧
        t.Served call l r out l' := by
  have hrun : From l.openScope (t.run call) _ := run_from
  have hrefuses : t.Refuses l.openScope (t.run call) := run_refuses
  unfold PrecompileTable.runScoped
  cases h : (t.run call).run.run l.openScope with
  | mk result ran =>
    cases result with
    | error cause =>
      cases hrun.of_run_error h
      have := (Inside.openScope l).rollback_eq
      exact .inl ⟨cause, by simp [this], hrefuses.of_run_error h⟩
    | ok out =>
      obtain ⟨r, hr, hp⟩ := hrun.of_run_ok h
      have hi := (Inside.openScope l).grows hp.grows
      have hc := hi.within.commit_self hi.depth
      exact .inr ⟨r, out, _, by simp [hc], hr, ran, hp, hc⟩

end Token

namespace PrecompileTable

variable {table : PrecompileTable} {a : Address} {call : PrecompileCall} {base l l' : Ledger}

/-- A call of no token does nothing, one that fails nothing either, and any other serves a
request. -/
theorem dispatch_cases (table : PrecompileTable) (a : Address) (call : PrecompileCall) (l : Ledger) :
    (table.lookup a = none ∧ table.dispatch a call l = (none, l)) ∨
      ∃ t, table.lookup a = some t ∧
        ((∃ cause, table.dispatch a call l = (some (.error cause), l)) ∨
          ∃ r out l', table.dispatch a call l = (some (.ok out), l') ∧ t.Served call l r out l') := by
  unfold dispatch
  cases table.lookup a with
  | none => exact .inl ⟨rfl, rfl⟩
  | some t =>
    refine .inr ⟨t, rfl, ?_⟩
    rcases Token.runScoped_cases t call l with ⟨cause, h, -⟩ | ⟨r, out, l', h, hs⟩
    · exact .inl ⟨cause, by simp [h]⟩
    · exact .inr ⟨r, out, l', by simp [h], hs⟩

/-- A call that reports an error of the ledger was to move coins, in a scope of its own, that the
ledger would not move. -/
theorem handsOn_of_dispatch {cause : PrecompileError}
    (h : (table.dispatch a call l).1 = some (.error cause)) :
    ∃ t : Token, t.HandsOn l.openScope cause := by
  unfold dispatch at h
  cases hlookup : table.lookup a with
  | none =>
    rw [hlookup] at h
    cases h
  | some t =>
    rw [hlookup] at h
    rcases Token.runScoped_cases t call l with ⟨cause', hrun, hhands⟩ | ⟨r, out, l', hrun, -⟩
    · simp only [hrun] at h
      cases h
      exact ⟨t, hhands⟩
    · simp only [hrun] at h
      cases h

theorem served_of_dispatch {t : Token} {out : PrecompileOutput} (ht : table.lookup a = some t)
    (h : table.dispatch a call l = (some (.ok out), l')) : ∃ r, t.Served call l r out l' := by
  rcases dispatch_cases table a call l with ⟨hnone, -⟩ | ⟨t', ht', ⟨_, he⟩ | ⟨r, out', l'', he, hs⟩⟩
  · cases hnone.symm.trans ht
  · cases he.symm.trans h
  · cases ht'.symm.trans ht
    cases he.symm.trans h
    exact ⟨r, hs⟩

/-- Apart from the writes and logs of its scope, a call leaves the ledger as it is. -/
theorem dispatch_inside (table : PrecompileTable) (a : Address) (call : PrecompileCall) (l : Ledger) :
    (table.dispatch a call l).2 = l ∨
      ∃ ran, l.Inside ran ∧ ran.commit l.depth = .ok (table.dispatch a call l).2 := by
  rcases dispatch_cases table a call l with ⟨-, h⟩ | ⟨t, -, ⟨_, h⟩ | ⟨r, out, l', h, hs⟩⟩
  · exact .inl (congrArg Prod.snd h)
  · exact .inl (congrArg Prod.snd h)
  · rw [h]
    exact .inr hs.inside

theorem dispatch_scopes (table : PrecompileTable) (a : Address) (call : PrecompileCall) (l : Ledger) :
    (table.dispatch a call l).2.scopes = l.scopes := by
  rcases dispatch_inside table a call l with h | ⟨ran, hi, hc⟩
  · rw [h]
  · have hledger := (hi.within.commit_self hi.depth).symm.trans hc
    exact (congrArg Ledger.scopes (Except.ok.inj hledger)).symm

theorem dispatch_depth (table : PrecompileTable) (a : Address) (call : PrecompileCall) (l : Ledger) :
    (table.dispatch a call l).2.depth = l.depth :=
  congrArg List.length (table.dispatch_scopes a call l)

theorem dispatch_within (h : base.Within l) : base.Within (table.dispatch a call l).2 := by
  rcases dispatch_inside table a call l with he | ⟨ran, hi, hc⟩
  · rwa [he]
  · exact hi.within.commit_into hi.depth h hc

theorem dispatch_keepsLogs (h : base.KeepsLogs l) :
    base.KeepsLogs (table.dispatch a call l).2 := by
  rcases dispatch_inside table a call l with he | ⟨ran, hi, hc⟩
  · rwa [he]
  · exact hi.keepsLogs.commit_into hi.within hi.depth h hc

end PrecompileTable

end EvmBank
