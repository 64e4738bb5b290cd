import EvmBank.Proofs.Precompile.Table
import EvmBank.Proofs.Token.Ideal

/-!
# The scope around a call

A call of a token does the same in a scope of its own as without one. Both runs go on side by side
(`Parallel`), from a ledger and from the same ledger inside one scope more (`Nests`): whatever is read is
the same, and whatever is written is written in both. So the scope makes no difference once it is
closed, however many scopes are open around it (`runScoped_alike`), and it is never needed to undo
anything, since a call that fails has not written yet (`call_is_atomic`).
-/

namespace EvmBank

open Fallible

/-! ## One scope more -/

namespace Ledger

variable {l n : Ledger}

/-- The second ledger is the first inside one scope more. What the first one remembers counts only
while it has a scope itself. -/
structure Nests (l n : Ledger) : Prop where
  books : n.books = l.books
  logs : n.logs = l.logs
  scopes : ∃ s, n.scopes = s :: l.scopes
  journal : l.scopes ≠ [] → n.journal = l.journal

/-- All that can be observed is the same. -/
structure Alike (l l' : Ledger) : Prop where
  books : l'.books = l.books
  logs : l'.logs = l.logs
  scopes : l'.scopes = l.scopes

theorem Alike.eq_of_journal {l' : Ledger} (h : l.Alike l') (hjournal : l'.journal = l.journal) :
    l' = l := by
  obtain ⟨hbooks, hlogs, hscopes⟩ := h
  cases l
  cases l'
  cases hbooks
  cases hlogs
  cases hscopes
  cases hjournal
  rfl

namespace Nests

theorem openScope (l : Ledger) : l.Nests l.openScope := ⟨rfl, rfl, ⟨_, rfl⟩, fun _ => rfl⟩

theorem write (h : l.Nests n) (c : Cell) : (l.write c).Nests (n.write c) := by
  obtain ⟨hbooks, hlogs, ⟨s, hs⟩, hjournal⟩ := h
  refine ⟨congrArg (Books.put · c) hbooks, hlogs, ⟨s, hs⟩, fun hopen => ?_⟩
  have hopen' : l.scopes ≠ [] := hopen
  simp only [Ledger.write, hs, List.isEmpty_cons, Bool.false_eq_true, if_false, hbooks,
    hjournal hopen', List.isEmpty_eq_false_iff.mpr hopen']

theorem addLog (h : l.Nests n) (log : Log) : (l.addLog log).Nests (n.addLog log) :=
  ⟨h.books, congrArg (· ++ [log]) h.logs, h.scopes, h.journal⟩

theorem openAccount (h : l.Nests n) (a : Address) : (l.openAccount a).Nests (n.openAccount a) := by
  unfold Ledger.openAccount Ledger.accountExists
  rw [h.books]
  split
  · exact h
  · exact h.write _

theorem setGrant (h : l.Nests n) (g : Grant) : (l.setGrant g).Nests (n.setGrant g) := h.write _

theorem grant?_eq (h : l.Nests n) (granter grantee : Address) :
    n.grant? granter grantee = l.grant? granter grantee :=
  congrArg (Books.grant? · granter grantee) h.books

theorem revokeGrant (h : l.Nests n) (granter grantee : Address) :
    (l.revokeGrant granter grantee).Nests (n.revokeGrant granter grantee) := by
  unfold Ledger.revokeGrant
  rw [h.grant?_eq]
  split
  · exact h.write _
  · exact h

theorem balance_eq (h : l.Nests n) (a : Address) (d : Denom) : n.balance a d = l.balance a d :=
  congrArg (Books.balance · a d) h.books

/-- Coins are moved in both or, for the same reason, in neither. -/
theorem transfer (h : l.Nests n) (source target : Address) (d : Denom) (amount : Amount) :
    (∃ error, l.transfer source target d amount = .error error ∧
        n.transfer source target d amount = .error error) ∨
      ∃ l' n', l.transfer source target d amount = .ok l' ∧
        n.transfer source target d amount = .ok n' ∧ l'.Nests n' := by
  simp only [Ledger.transfer, h.balance_eq]
  split
  · exact .inl ⟨_, rfl, rfl⟩
  · split
    · exact .inr ⟨l, n, rfl, rfl, h⟩
    · split
      · exact .inl ⟨_, rfl, rfl⟩
      · exact .inr ⟨_, _, rfl, rfl, ((h.openAccount target).write _).write _⟩

/-- Closing the scope leaves what there is without it. -/
theorem commit (h : l.Nests n) :
    ∃ n', n.commit l.depth = .ok n' ∧ l.Alike n' ∧ (l.scopes ≠ [] → n' = l) ∧
      (l.scopes = [] → n'.journal = []) := by
  obtain ⟨hbooks, hlogs, ⟨s, hs⟩, hjournal⟩ := h
  refine ⟨_, commit_eq_ok.mpr ⟨s, l.scopes, hs, rfl, rfl⟩, ⟨hbooks, hlogs, rfl⟩, fun hopen => ?_,
    fun hnone => ?_⟩
  · rw [List.isEmpty_eq_false_iff.mpr hopen, hjournal hopen, hbooks, hlogs]
    rfl
  · rw [hnone]
    rfl

end Nests

end Ledger

/-! ## Two runs side by side -/

namespace Token

variable {t : Token} {call : PrecompileCall} {data : Bytes} {l n : Ledger} {α β : Type}

/-- From `l` the first action comes to what the second comes to from `n`, and what they leave is
nested again. -/
def Parallel (x y : LedgerAction α) (l n : Ledger) : Prop :=
  (y.run.run n).1 = (x.run.run l).1 ∧ (x.run.run l).2.Nests (y.run.run n).2

namespace Parallel

variable {x y : LedgerAction α}

theorem pure (h : l.Nests n) (a : α) : Parallel (pure a) (pure a) l n := ⟨rfl, h⟩

theorem throw (h : l.Nests n) (cause : PrecompileError) :
    Parallel (throw cause : LedgerAction α) (throw cause : LedgerAction α) l n := ⟨rfl, h⟩

theorem modify {f g : Ledger → Ledger} (h : (f l).Nests (g n)) :
    Parallel (modify f) (modify g) l n := ⟨rfl, h⟩

theorem bind {f g : α → LedgerAction β} (h : Parallel x y l n)
    (hf : ∀ a l' n', l'.Nests n' → Parallel (f a) (g a) l' n') :
    Parallel (x >>= f) (y >>= g) l n := by
  obtain ⟨hresult, hnests⟩ := h
  unfold Parallel
  rw [run_bind, run_bind]
  rcases hx : x.run.run l with ⟨cause | a, l'⟩ <;> rcases hy : y.run.run n with ⟨cause' | a', n'⟩ <;>
    rw [hx, hy] at hresult hnests <;> cases hresult
  · exact ⟨rfl, hnests⟩
  · exact hf a l' n' hnests

/-- What is read is the same as far as the books go. -/
theorem get_bind {f g : Ledger → LedgerAction α} (h : Parallel (f l) (g n) l n) :
    Parallel (get >>= f) (get >>= g) l n := h

end Parallel

theorem arguments_parallel {count : Nat} {reader : Abi.Reader α} (h : l.Nests n) :
    Parallel (arguments data count reader) (arguments data count reader) l n := by
  unfold arguments
  cases Abi.read data count reader with
  | ok values => exact .pure h values
  | error cause => exact .throw h _

theorem emit_parallel {topic : Hash} {first second : Address} {amount : Amount} (h : l.Nests n) :
    Parallel (t.emit topic first second amount) (t.emit topic first second amount) l n :=
  .modify (h.addLog _)

theorem storeGrant_parallel {owner spender : Address} {g : Grant} (h : l.Nests n) :
    Parallel (storeGrant owner spender g) (storeGrant owner spender g) l n := by
  refine .modify ?_
  split
  · exact h.revokeGrant owner spender
  · exact h.setGrant g

theorem liveGrant?_eq (h : l.Nests n) (owner spender : Address) (time : Seconds) :
    liveGrant? n owner spender time = liveGrant? l owner spender time := by
  unfold liveGrant?
  rw [h.grant?_eq]

theorem moveFunds_parallel {source target : Address} {amount : Amount} (h : l.Nests n) :
    Parallel (t.moveFunds source target amount) (t.moveFunds source target amount) l n := by
  unfold moveFunds
  refine .get_bind ?_
  dsimp only
  rw [h.balance_eq]
  split
  · exact .throw h _
  · rcases h.transfer source target t.denom amount with ⟨error, hl, hn⟩ | ⟨l', n', hl, hn, hmoved⟩
    · rw [hl, hn]
      exact .throw h _
    · rw [hl, hn]
      exact emit_parallel hmoved

theorem transfer_parallel (h : l.Nests n) :
    Parallel (t.transfer call data) (t.transfer call data) l n := by
  refine (arguments_parallel h).bind ?_
  rintro ⟨target, amount⟩ l n h
  exact (moveFunds_parallel h).bind fun _ _ _ h => .pure h _

theorem transferFrom_parallel (h : l.Nests n) :
    Parallel (t.transferFrom call data) (t.transferFrom call data) l n := by
  refine (arguments_parallel h).bind ?_
  rintro ⟨source, target, amount⟩ l n h
  dsimp only
  split
  · exact (moveFunds_parallel h).bind fun _ _ _ h => .pure h _
  · refine .get_bind ?_
    rw [liveGrant?_eq h]
    cases liveGrant? l source call.caller call.time with
    | none => exact .throw h _
    | some g =>
      dsimp only
      split
      · exact .throw h _
      · cases (g.limitFor t.denom).sub? amount with
        | none => exact .throw h _
        | some left =>
          exact (moveFunds_parallel h).bind fun _ _ _ h =>
            (storeGrant_parallel h).bind fun _ _ _ h => .pure h _

theorem approve_parallel (h : l.Nests n) :
    Parallel (t.approve call data) (t.approve call data) l n := by
  refine (arguments_parallel h).bind ?_
  rintro ⟨spender, amount⟩ l n h
  have hdone : ∀ l' n' : Ledger, l'.Nests n' →
      Parallel (do t.emit approvalTopic call.caller spender amount; return Abi.boolWord true)
        (do t.emit approvalTopic call.caller spender amount; return Abi.boolWord true) l' n' :=
    fun _ _ h => (emit_parallel h).bind fun _ _ _ h => .pure h _
  refine .get_bind ?_
  rw [liveGrant?_eq h]
  cases liveGrant? l call.caller spender call.time with
  | some g => exact (storeGrant_parallel h).bind fun _ => hdone
  | none =>
    dsimp only
    split
    · exact (Parallel.modify (h.revokeGrant call.caller spender)).bind fun _ => hdone
    · exact (Parallel.modify (h.setGrant _)).bind fun _ => hdone

theorem adjustAllowance_parallel {adjust : Amount → Amount → Option Amount} (h : l.Nests n) :
    Parallel (t.adjustAllowance call data adjust) (t.adjustAllowance call data adjust) l n := by
  refine (arguments_parallel h).bind ?_
  rintro ⟨spender, delta⟩ l n h
  refine .get_bind ?_
  rw [liveGrant?_eq h]
  cases liveGrant? l call.caller spender call.time with
  | none => exact .throw h _
  | some g =>
    dsimp only
    cases adjust (g.limitFor t.denom) delta with
    | none => exact .throw h _
    | some updated =>
      exact (storeGrant_parallel h).bind fun _ _ _ h => (emit_parallel h).bind fun _ _ _ h => .pure h _

theorem runMethod_parallel {m : TokenMethod} (h : l.Nests n) :
    Parallel (t.runMethod call data m) (t.runMethod call data m) l n := by
  cases m with
  | transfer => exact transfer_parallel h
  | transferFrom => exact transferFrom_parallel h
  | approve => exact approve_parallel h
  | increaseAllowance | decreaseAllowance => exact adjustAllowance_parallel h
  | allowance =>
    refine (arguments_parallel h).bind ?_
    rintro ⟨owner, spender⟩ l n h
    refine .get_bind ?_
    rw [allowanceAt, allowanceAt, liveGrant?_eq h]
    exact .pure h _
  | balanceOf =>
    refine (arguments_parallel h).bind fun account l n h => .get_bind ?_
    rw [h.balance_eq]
    exact .pure h _
  | totalSupply =>
    refine (arguments_parallel h).bind fun _ l n h => .get_bind ?_
    rw [Ledger.supply, Ledger.supply, h.books]
    exact .pure h _

/-- A call does the same in a scope as without it. -/
theorem run_parallel (h : l.Nests n) : Parallel (t.run call) (t.run call) l n := by
  unfold run
  cases Abi.splitSelector call.input with
  | error cause => exact .throw h _
  | ok parts =>
    obtain ⟨selector, data⟩ := parts
    dsimp only
    cases TokenMethod.ofSelector? selector with
    | none => exact .throw h _
    | some m =>
      dsimp only
      split
      · exact .throw h _
      split
      · exact .throw h _
      split
      · exact .throw h _
      exact (runMethod_parallel h).bind fun _ _ _ h => .pure h _

end Token

/-! ## Closing the scope -/

/-- Without an open scope, nothing is remembered. -/
theorem Ledger.Grows.journal_eq {l l' : Ledger} (h : l.Grows l') (hnone : l.scopes = []) :
    l'.journal = l.journal := by
  induction h with
  | refl => rfl
  | @write grown hgrows c ih =>
    have hscopes : grown.scopes = [] := hgrows.scopes_eq.trans hnone
    simp only [Ledger.write, hscopes, List.isEmpty_nil, if_true, ih]
  | addLog _ _ ih => exact ih

namespace PrecompileTable

open Token

variable {t : Token} {call : PrecompileCall} {l : Ledger}

/-- A call comes to the same in its scope as without one, and leaves what can be told apart in no way.
Where the ledger remembers nothing but for a scope, the ledgers are equal. -/
theorem runScoped_alike (t : Token) (call : PrecompileCall) (l : Ledger) :
    (runScoped t call l).1 = ((t.run call).run.run l).1 ∧
      ((t.run call).run.run l).2.Alike (runScoped t call l).2 ∧
      ((l.scopes = [] → l.journal = []) → (runScoped t call l).2 = ((t.run call).run.run l).2) := by
  have hfrom : From l (t.run call) _ := run_from
  have hscoped : From l.openScope (t.run call) _ := run_from
  have hparallel : Parallel (t.run call) (t.run call) l l.openScope := run_parallel (.openScope l)
  obtain ⟨hresult, hnests⟩ := hparallel
  rcases hrun : (t.run call).run.run l with ⟨result, l'⟩
  rcases hopen : (t.run call).run.run l.openScope with ⟨result', n⟩
  rw [hrun, hopen] at hresult hnests
  cases hresult
  cases result with
  | error cause =>
    -- Neither run has written, so that the rollback finds nothing to undo.
    cases hfrom.of_run_error hrun
    cases hscoped.of_run_error hopen
    have hback : runScoped t call l = (.error cause, l) := by
      simp only [runScoped, hopen, (Ledger.Inside.openScope l).rollback_eq]
    rw [hback]
    exact ⟨rfl, ⟨rfl, rfl, rfl⟩, fun _ => rfl⟩
  | ok served =>
    obtain ⟨r, -, hperforms⟩ := hfrom.of_run_ok hrun
    have hgrows := hperforms.grows
    obtain ⟨n', hcommit, halike, hsame, hempty⟩ := hnests.commit
    rw [hgrows.depth_eq] at hcommit
    have hkept : runScoped t call l = (.ok served, n') := by
      simp only [runScoped, hopen, hcommit]
    rw [hkept]
    refine ⟨rfl, halike, fun hjournal => ?_⟩
    -- What is remembered is dropped with the outermost scope, and goes on below it otherwise.
    by_cases hscopes : l'.scopes = []
    · have hnone : l.scopes = [] := hgrows.scopes_eq.symm.trans hscopes
      refine halike.eq_of_journal ?_
      rw [hempty hscopes, hgrows.journal_eq hnone, hjournal hnone]
    · exact hsame hscopes

/-- Whether a request only asks can be told from the selector. -/
theorem isTransaction_of_take {r : TokenRequest} {gasUsed : Gas} (ha : Admits call r gasUsed)
    (hquery : call.input.take 4 ∈ [TokenMethod.allowance.selector, TokenMethod.balanceOf.selector,
      TokenMethod.totalSupply.selector]) :
    r.method.isTransaction = false := by
  have hlength : r.method.selector.length = 4 := by cases r <;> rfl
  rw [ha.input, TokenRequest.calldata, Abi.encodeCall, List.take_left' hlength] at hquery
  generalize r.method = m at hquery
  cases m <;> first | rfl | exact absurd hquery (by decide)

/-- A call is served exactly if its address is in the table. It comes to the same in a scope of its own
and without one, and leaves ledgers that nothing tells apart. Where it fails, both are as before; where
it succeeds, it used no more gas than it had, and both are as before if it must not change anything or
only asks. The ledgers are equal if nothing is remembered without a scope. -/
theorem call_is_atomic {registry : Registry} {listing : TokenListing} {seconds : Seconds}
    {table : PrecompileTable} (h : build registry listing seconds = .ok table) (a : Address)
    (call : PrecompileCall) (l : Ledger) :
    ((table.dispatch a call l).1 = none ↔ a ∉ table.addresses) ∧
      (a ∉ table.addresses → (table.dispatch a call l).2 = l) ∧
      ∀ {t : Token}, table.lookup a = some t →
        let ran := (t.run call).run.run l
        let dispatched := table.dispatch a call l
        dispatched.1 = some ran.1 ∧ ran.2.Alike dispatched.2 ∧
          ((l.scopes = [] → l.journal = []) → dispatched.2 = ran.2) ∧
          (∀ cause, ran.1 = .error cause → ran.2 = l ∧ dispatched.2 = l) ∧
          ∀ out, ran.1 = .ok out → out.gasUsed ≤ call.gasLimit ∧
            (call.isStatic = true ∨ call.input.take 4 ∈
                [TokenMethod.allowance.selector, TokenMethod.balanceOf.selector,
                  TokenMethod.totalSupply.selector] →
              ran.2 = l ∧ l.Alike dispatched.2) := by
  have hnone := (sorted_of_build h).lookup_eq_none (a := a)
  have hmissing : table.lookup a = none → table.dispatch a call l = (none, l) := by
    intro hlookup
    rw [dispatch, hlookup]
  refine ⟨⟨fun hresult => ?_, fun hmem => ?_⟩, fun hmem => ?_, ?_⟩
  · refine hnone.mp (Option.eq_none_iff_forall_ne_some.mpr fun t ht => ?_)
    rw [dispatch, ht] at hresult
    cases hresult
  · rw [hmissing (hnone.mpr hmem)]
  · rw [hmissing (hnone.mpr hmem)]
  · intro t ht
    have hdispatch : table.dispatch a call l =
        (some (runScoped t call l).1, (runScoped t call l).2) := by
      rw [dispatch, ht]
    obtain ⟨hresult, halike, hsame⟩ := runScoped_alike t call l
    have hfrom : From l (t.run call) _ := run_from
    rw [hdispatch, hresult]
    refine ⟨rfl, halike, hsame, fun cause hcause => ?_, fun out hout => ?_⟩
    · have hback : ((t.run call).run.run l).2 = l := hfrom.of_run_error (Prod.ext hcause rfl)
      refine ⟨hback, ?_⟩
      rcases runScoped_cases t call l with ⟨_, hfailed, -⟩ | ⟨_, _, _, hserved, -⟩
      · rw [hfailed]
      · rw [hserved, hcause] at hresult
        cases hresult
    · obtain ⟨r, hadmits, hperforms⟩ := hfrom.of_run_ok (Prod.ext hout rfl)
      refine ⟨hadmits.paid, fun hquery => ?_⟩
      have hasks : r.method.isTransaction = false :=
        hquery.elim hadmits.static (isTransaction_of_take hadmits)
      have hback : ((t.run call).run.run l).2 = l := hperforms.eq_of_query hasks
      rw [hback] at halike
      exact ⟨hback, halike⟩

/-- Account 1 moves coins of account 3 inside another scope. -/
theorem nested_call_is_atomic :
    let registry : Registry :=
      { pairs := SortedMap.empty.insert "aledger" ⟨.ofLow 4, "aledger", true, .external⟩
        denoms := SortedMap.empty.insert (.ofLow 4) "aledger" }
    let t : Token := ⟨.ofLow 4, "aledger", 1000⟩
    let table : PrecompileTable := ⟨#[⟨.external, t⟩]⟩
    let l := ((Ledger.empty.mint (.ofLow 3) "aledger" 500).setGrant
      (.single (.ofLow 3) (.ofLow 1) "aledger" 100 (some 2000))).openScope
    let call : PrecompileCall :=
      ⟨(TokenRequest.transferFrom (.ofLow 3) (.ofLow 5) 40).calldata, .ofLow 1, 0, 10000, false, 1000⟩
    let out : PrecompileOutput := ⟨5000, Abi.boolWord true⟩
    (build registry ⟨true, [], [.ofLow 4]⟩ 1000 = .ok table ∧ table.lookup (.ofLow 4) = some t ∧
        ((t.run call).run.run l).1 = .ok out) ∧
      (table.dispatch (.ofLow 4) call l).1 = some (.ok out) ∧
      (table.dispatch (.ofLow 4) call l).2 = ((t.run call).run.run l).2 ∧
      out.gasUsed ≤ call.gasLimit := by
  intro registry t table l call out
  have hbuild : build registry ⟨true, [], [.ofLow 4]⟩ 1000 = .ok table := rfl
  have hlookup : table.lookup (.ofLow 4) = some t := by decide +kernel
  have hran : ((t.run call).run.run l).1 = .ok out := by decide +kernel
  obtain ⟨-, -, hfound⟩ := call_is_atomic hbuild (.ofLow 4) call l
  obtain ⟨hresult, -, hsame, -, hserved⟩ := hfound hlookup
  rw [hran] at hresult
  exact ⟨⟨hbuild, hlookup, hran⟩, hresult, hsame nofun, (hserved out hran).1⟩

end PrecompileTable

end EvmBank
