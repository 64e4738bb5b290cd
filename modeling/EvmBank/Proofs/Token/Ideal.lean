import EvmBank.Proofs.Token.Calls

/-!
# Tokens as ideal tokens

Seen at a time, the books are balances, allowances and supplies, and nothing of grants is left
(`TokenView`). A call of a token that succeeds does to this view what an ideal token would do
(`Ideal`), and emits the one log that says so. The view after it is given as a whole, so that no
other account, pair of accounts or denomination is touched.
-/

namespace EvmBank

-- Powers are those of the core library, also beside more general ones.
attribute [local instance (high)] instPowNat

/-- Balances, allowances and supplies as numbers. -/
@[ext]
structure TokenView where
  balance : Address → Denom → Nat
  /-- By owner, spender and denomination. -/
  allowance : Address → Address → Denom → Nat
  supply : Denom → Nat

namespace TokenView

/-- Moves coins. Moving them to where they are changes nothing. -/
def move (v : TokenView) (source target : Address) (d : Denom) (n : Nat) : TokenView :=
  { v with
    balance := fun a d' =>
      if d' = d then
        v.balance a d - (if a = source then n else 0) + if a = target then n else 0
      else v.balance a d' }

def setAllowance (v : TokenView) (owner spender : Address) (d : Denom) (n : Nat) : TokenView :=
  { v with
    allowance := fun o s d' =>
      if (o, s) = (owner, spender) ∧ d' = d then n else v.allowance o s d' }

theorem allowance_setAllowance (v : TokenView) (owner spender : Address) (d : Denom) (n : Nat) :
    (v.setAllowance owner spender d n).allowance owner spender d = n :=
  if_pos ⟨rfl, rfl⟩

end TokenView

/-- What a grant, if there is one, allows at a time. One that has expired allows nothing. -/
def Grant.allowed (time : Seconds) (d : Denom) : Option Grant → Nat
  | some g => if g.isExpired time then 0 else (g.limitFor d).toNat
  | none => 0

/-- What the books come to at a time. -/
def Books.view (b : Books) (time : Seconds) : TokenView where
  balance a d := (b.balance a d).toNat
  allowance owner spender d := Grant.allowed time d (b.grant? owner spender)
  supply d := (b.supply d).toNat

def Ledger.view (l : Ledger) (time : Seconds) : TokenView := l.books.view time

/-- What an ideal token of a denomination does on a request: what it demands of the view, its answer,
and the view after it. -/
def TokenRequest.Ideal (d : Denom) (caller : Address) (v v' : TokenView) (answer : Nat) :
    TokenRequest → Prop
  | .transfer target n =>
    n.toNat ≤ v.balance caller d ∧ v' = v.move caller target d n.toNat ∧ answer = 1
  | .transferFrom source target n =>
    n.toNat ≤ v.balance source d ∧ answer = 1 ∧
      if source = caller then v' = v.move source target d n.toNat
      else
        n.toNat ≤ v.allowance source caller d ∧
          v' = (v.move source target d n.toNat).setAllowance source caller d
            (v.allowance source caller d - n.toNat)
  | .approve spender n => v' = v.setAllowance caller spender d n.toNat ∧ answer = 1
  | .increaseAllowance spender n =>
    v.allowance caller spender d + n.toNat < 2 ^ (256 : Nat) ∧ answer = 1 ∧
      v' = v.setAllowance caller spender d (v.allowance caller spender d + n.toNat)
  | .decreaseAllowance spender n =>
    n.toNat ≤ v.allowance caller spender d ∧ answer = 1 ∧
      v' = v.setAllowance caller spender d (v.allowance caller spender d - n.toNat)
  | .allowance owner spender => answer = v.allowance owner spender d ∧ v' = v
  | .balanceOf a => answer = v.balance a d ∧ v' = v
  | .totalSupply => answer = v.supply d ∧ v' = v

/-- The logs of a request after which the view is `v`: that of a transfer says how much was moved,
and that of an approval what the allowance is now. -/
def TokenRequest.events (t : Token) (caller : Address) (v : TokenView) : TokenRequest → List Log
  | .transfer target n => [t.event Token.transferTopic caller target n.toNat]
  | .transferFrom source target n => [t.event Token.transferTopic source target n.toNat]
  | .approve spender _ | .increaseAllowance spender _ | .decreaseAllowance spender _ =>
    [t.event Token.approvalTopic caller spender (v.allowance caller spender t.denom)]
  | .allowance .. | .balanceOf _ | .totalSupply => []

/-! ## The view after an operation -/

namespace Books

variable {b b' : Books} {time : Seconds}

theorem view_of_moves {source target : Address} {d : Denom} {amount : Amount}
    (h : b.Moves b' source target d amount) :
    b'.view time = (b.view time).move source target d amount.toNat := by
  ext a d'
  · have hb := h.balance a d'
    have hf := h.funds
    simp only [view, TokenView.move]
    by_cases hd : d' = d
    · subst hd
      simp only [and_true, if_true] at hb ⊢
      by_cases hs : a = source
      · subst hs
        simp only [if_true] at hb ⊢
        omega
      · simp only [hs, if_false] at hb ⊢
        omega
    · simpa [hd] using hb
  · simp only [view, TokenView.move, grant?, h.grants]
  · simp only [view, TokenView.move, supply, h.supplies]

/-- Replacing one grant sets one allowance, if what it allows of other denominations is as before. -/
theorem view_of_grant {owner spender : Address} {g? : Option Grant} {d : Denom} {n : Nat}
    (hbalances : b'.balances = b.balances) (hsupplies : b'.supplies = b.supplies)
    (hgrants : ∀ o s, b'.grant? o s = if (o, s) = (owner, spender) then g? else b.grant? o s)
    (hd : Grant.allowed time d g? = n)
    (hrest : ∀ d', d' ≠ d →
      Grant.allowed time d' g? = Grant.allowed time d' (b.grant? owner spender)) :
    b'.view time = (b.view time).setAllowance owner spender d n := by
  ext o
  · simp only [view, TokenView.setAllowance, balance, hbalances]
  · rename_i s d'
    simp only [view, TokenView.setAllowance, hgrants]
    by_cases hos : (o, s) = (owner, spender)
    · obtain ⟨rfl, rfl⟩ := Prod.mk.inj hos
      by_cases hd' : d' = d
      · subst hd'
        simpa using hd
      · simpa [hd'] using hrest d' hd'
    · simp [hos]
  · simp only [view, TokenView.setAllowance, supply, hsupplies]

end Books

namespace Ledger

variable {l : Ledger} {time : Seconds} {owner spender : Address} {g : Grant}

/-- Another limit in a grant that has not expired. It makes no difference whether a grant without
limits is dropped. -/
theorem view_keepGrant {d : Denom} {n : Amount} (hg : l.grant? owner spender = some g)
    (hlive : g.isExpired time = false) :
    (l.keepGrant owner spender (g.setLimit d n)).view time =
      (l.view time).setAllowance owner spender d n.toNat := by
  have hallowed (d' : Denom) :
      Grant.allowed time d' (if (g.setLimit d n).spendLimit.isEmpty then none
        else some (g.setLimit d n)) = ((g.setLimit d n).limitFor d').toNat := by
    split
    · rename_i hempty
      rw [Grant.limitFor_of_isEmpty hempty]
      exact Quantity.toNat_zero.symm
    · have hlive : (g.setLimit d n).isExpired time = false := hlive
      simp [Grant.allowed, hlive]
  have hparties : g.parties = (owner, spender) := Books.parties_of_grant? (b := l.books) hg
  refine Books.view_of_grant (balances_keepGrant l owner spender _)
    (supplies_keepGrant l owner spender _) (grant?_keepGrant (g := g.setLimit d n) hparties) ?_ ?_
  · rw [hallowed, Grant.limitFor_setLimit, if_pos rfl]
  · intro d' hd'
    rw [hallowed, Grant.limitFor_setLimit, if_neg hd', show l.books.grant? owner spender = some g from hg]
    simp [Grant.allowed, hlive]

/-- Where nothing is allowed, dropping the grant that has expired changes nothing. -/
theorem view_revokeGrant {d : Denom} (h : ∀ d', (l.view time).allowance owner spender d' = 0) :
    (l.revokeGrant owner spender).view time = (l.view time).setAllowance owner spender d 0 := by
  unfold view at h ⊢
  rw [books_revokeGrant]
  exact Books.view_of_grant rfl rfl (Books.grant?_revokeGrant l.books owner spender) rfl
    fun d' _ => (h d').symm

/-- Where nothing is allowed, a new grant of one denomination sets one allowance. -/
theorem view_setGrant_single {d : Denom} {n : Amount} {expiration : Option Seconds}
    (h : ∀ d', (l.view time).allowance owner spender d' = 0)
    (hlive : (Grant.single owner spender d n expiration).isExpired time = false) :
    (l.setGrant (.single owner spender d n expiration)).view time =
      (l.view time).setAllowance owner spender d n.toNat := by
  refine Books.view_of_grant rfl rfl (Books.grant?_setGrant l.books _) ?_ fun d' hd' => ?_
  · simp [Grant.allowed, hlive, Grant.limitFor_single]
  · rw [show Grant.allowed time d' (l.books.grant? owner spender) = 0 from h d']
    simp [Grant.allowed, Grant.limitFor_single, hd']

end Ledger

/-! ## Requests that are performed -/

namespace Token

variable {t : Token} {l l' : Ledger} {caller owner spender : Address} {time : Seconds} {g : Grant}

theorem allowance_of_live (h : liveGrant? l owner spender time = some g) (d : Denom) :
    (l.view time).allowance owner spender d = (g.limitFor d).toNat := by
  obtain ⟨hg, hlive⟩ := liveGrant?_eq_some h
  have hg : l.books.grant? owner spender = some g := hg
  simp [Ledger.view, Books.view, Grant.allowed, hg, hlive]

theorem allowance_of_none (h : liveGrant? l owner spender time = none) (d : Denom) :
    (l.view time).allowance owner spender d = 0 := by
  cases hg : l.books.grant? owner spender with
  | none => simp [Ledger.view, Books.view, Grant.allowed, hg]
  | some g =>
    have hlive : g.isExpired time = true := by
      simpa [liveGrant?, Ledger.grant?, hg] using h
    simp [Ledger.view, Books.view, Grant.allowed, hg, hlive]

theorem allowanceAt_eq (t : Token) (l : Ledger) (owner spender : Address) (time : Seconds) :
    (t.allowanceAt l owner spender time).toNat = (l.view time).allowance owner spender t.denom := by
  unfold allowanceAt
  split
  · exact (allowance_of_live ‹_› t.denom).symm
  · rw [allowance_of_none ‹_› t.denom]
    exact Quantity.toNat_zero

/-- An approval by the caller, seen from its effect on the view. -/
theorem approval_logs {n : Nat} {grown : Ledger} (hlogs : grown.logs = l.logs)
    (hview : grown.view time = (l.view time).setAllowance owner spender t.denom n) :
    (grown.addLog (t.event approvalTopic owner spender n)).logs = l.logs ++
      [t.event approvalTopic owner spender ((grown.view time).allowance owner spender t.denom)] := by
  rw [hview, TokenView.allowance_setAllowance]
  exact congrArg (· ++ _) hlogs

/-- What is performed is what the ideal token does, and the log says so. -/
theorem Performs.ideal {r : TokenRequest} {out : Bytes} (h : t.Performs caller time l r out l') :
    ∃ answer, r.Ideal t.denom caller (l.view time) (l'.view time) answer ∧
      out = Bytes.bigEndian Abi.wordSize answer ∧
      l'.logs = l.logs ++ r.events t caller (l'.view time) := by
  cases h with
  | transfer hm =>
    have hmoves := Ledger.moves_of_transfer hm
    exact ⟨1, ⟨hmoves.funds, Books.view_of_moves hmoves, rfl⟩, rfl,
      congrArg (· ++ _) (Ledger.logs_transfer hm)⟩
  | transferOwn hm =>
    have hmoves := Ledger.moves_of_transfer hm
    refine ⟨1, ⟨hmoves.funds, rfl, ?_⟩, rfl, congrArg (· ++ _) (Ledger.logs_transfer hm)⟩
    rw [if_pos rfl]
    exact Books.view_of_moves hmoves
  | @transferGranted source target amount left g moved hs hg ha hn hm =>
    have hmoves := Ledger.moves_of_transfer hm
    obtain ⟨hle, hleft⟩ := Quantity.sub?_eq_some.mp hn
    obtain ⟨hgrant, hlive⟩ := liveGrant?_eq_some hg
    have hgrant' : (moved.addLog (t.event transferTopic source target amount.toNat)).grant?
        source caller = some g := by
      rw [← hgrant]
      exact congrArg (SortedMap.get? · (source, caller)) hmoves.grants
    refine ⟨1, ⟨hmoves.funds, rfl, ?_⟩, rfl, ?_⟩
    · rw [if_neg hs, allowance_of_live hg, ← hleft, Ledger.view_keepGrant hgrant' hlive]
      exact ⟨hle, congrArg (·.setAllowance source caller t.denom left.toNat)
        (Books.view_of_moves hmoves)⟩
    · rw [Ledger.logs_keepGrant]
      exact congrArg (· ++ _) (Ledger.logs_transfer hm)
  | @approveLive spender amount g hg =>
    obtain ⟨hgrant, hlive⟩ := liveGrant?_eq_some hg
    have hview := Ledger.view_keepGrant (d := t.denom) (n := amount) hgrant hlive
    exact ⟨1, ⟨hview, rfl⟩, rfl, approval_logs (Ledger.logs_keepGrant ..) hview⟩
  | @approveNothing spender amount hg hz =>
    have hview := Ledger.view_revokeGrant (d := t.denom) (allowance_of_none hg)
    rw [← show amount.toNat = 0 from hz ▸ Quantity.toNat_zero] at hview
    exact ⟨1, ⟨hview, rfl⟩, rfl, approval_logs (Ledger.logs_revokeGrant ..) hview⟩
  | @approveNew spender amount hg hnz =>
    have hlive : (Grant.single caller spender t.denom amount
        (some (time.satAdd t.approvalSeconds))).isExpired time = false := by
      have := time.isLt
      simp only [Grant.single, Grant.isExpired, decide_eq_false_iff_not, Quantity.lt_def,
        Quantity.toNat_satAdd]
      omega
    have hview := Ledger.view_setGrant_single (allowance_of_none hg) hlive
    exact ⟨1, ⟨hview, rfl⟩, rfl, approval_logs rfl hview⟩
  | @increase spender delta updated g hg hn =>
    obtain ⟨hgrant, hlive⟩ := liveGrant?_eq_some hg
    have hview := Ledger.view_keepGrant (d := t.denom) (n := updated) hgrant hlive
    have hsum := Quantity.add?_eq_some.mp hn
    rw [← allowance_of_live hg] at hsum
    refine ⟨1, ⟨hsum ▸ updated.isLt, rfl, hsum ▸ hview⟩, rfl, approval_logs ?_ hview⟩
    exact Ledger.logs_keepGrant ..
  | @decrease spender delta updated g hg hn =>
    obtain ⟨hgrant, hlive⟩ := liveGrant?_eq_some hg
    have hview := Ledger.view_keepGrant (d := t.denom) (n := updated) hgrant hlive
    obtain ⟨hle, hdiff⟩ := Quantity.sub?_eq_some.mp hn
    rw [← allowance_of_live hg] at hle hdiff
    refine ⟨1, ⟨hle, rfl, hdiff ▸ hview⟩, rfl, approval_logs ?_ hview⟩
    exact Ledger.logs_keepGrant ..
  | allowance => exact ⟨_, ⟨rfl, rfl⟩, by rw [← allowanceAt_eq]; rfl, (List.append_nil _).symm⟩
  | balanceOf => exact ⟨_, ⟨rfl, rfl⟩, rfl, (List.append_nil _).symm⟩
  | totalSupply => exact ⟨_, ⟨rfl, rfl⟩, rfl, (List.append_nil _).symm⟩

theorem Performs.eq_of_query {r : TokenRequest} {out : Bytes}
    (h : t.Performs caller time l r out l') (hq : r.method.isTransaction = false) : l' = l := by
  cases h <;> first | rfl | cases hq

/-- A call that did what an ideal token does on a request. -/
structure Realizes (t : Token) (call : PrecompileCall) (l : Ledger) (out : PrecompileOutput)
    (l' : Ledger) (r : TokenRequest) (answer : Nat) : Prop where
  /-- The calldata asks for this request and no other. -/
  calldata : ∀ r' : TokenRequest, call.input = r'.calldata ↔ r' = r
  ideal : r.Ideal t.denom call.caller (l.view call.time) (l'.view call.time) answer
  output : out.output = Bytes.bigEndian Abi.wordSize answer
  logs : l'.logs = l.logs ++ r.events t call.caller (l'.view call.time)
  /-- A request that only asks changes nothing, also where the view does not tell. -/
  books : r.method.isTransaction = false → l'.books = l.books
  depth : l'.depth = l.depth

/-- A token does what an ideal token of its denomination would do, for whatever call succeeds. -/
theorem dispatch_realizes_ideal {table : PrecompileTable} {a : Address} {t : Token}
    {call : PrecompileCall} {l l' : Ledger} {out : PrecompileOutput} (ht : table.lookup a = some t)
    (h : table.dispatch a call l = (some (.ok out), l')) :
    ∃ r answer, t.Realizes call l out l' r answer := by
  obtain ⟨r, hs⟩ := PrecompileTable.served_of_dispatch ht h
  obtain ⟨ran, hp, hc⟩ := hs.performs
  obtain ⟨answer, hideal, hout, hlogs⟩ := hp.ideal
  obtain ⟨_, _, -, hdepth, rfl⟩ := Ledger.commit_eq_ok.mp hc
  refine ⟨r, answer, fun r' => ⟨fun hr' => ?_, fun hr' => ?_⟩, hideal, hout, hlogs, ?_, hdepth⟩
  · exact TokenRequest.calldata_inj (hr'.symm.trans hs.admits.input)
  · exact hr' ▸ hs.admits.input
  · intro hq
    show ran.books = l.openScope.books
    rw [hp.eq_of_query hq]

/-- Account 1 moves 40 coins of account 3 to account 5, where it may move 100. -/
theorem transferFrom_realizes_ideal :
    let t : Token := ⟨.ofLow 4, "aledger", 1000⟩
    let table : PrecompileTable := ⟨#[⟨.external, t⟩]⟩
    let l := (Ledger.empty.mint (.ofLow 3) "aledger" 500).setGrant
      (.single (.ofLow 3) (.ofLow 1) "aledger" 100 (some 2000))
    let call : PrecompileCall :=
      ⟨(TokenRequest.transferFrom (.ofLow 3) (.ofLow 5) 40).calldata, .ofLow 1, 0, 10000, false, 1000⟩
    let out : PrecompileOutput := ⟨5000, Abi.boolWord true⟩
    (table.lookup (.ofLow 4) = some t ∧ (table.dispatch (.ofLow 4) call l).1 = some (.ok out)) ∧
      ∃ r answer, t.Realizes call l out (table.dispatch (.ofLow 4) call l).2 r answer :=
  ⟨⟨rfl, rfl⟩, dispatch_realizes_ideal rfl (Prod.ext rfl rfl)⟩

end Token

end EvmBank
