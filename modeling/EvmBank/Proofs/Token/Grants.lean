import EvmBank.Proofs.Token.Calls

/-!
# The grants that calls of tokens leave

A call of a token creates a grant, sets a limit of a live one, or leaves it as it is (`Token.Stores`). A
run of calls, with scopes that are committed or rolled back, comes to the calls that were not rolled back
(`Reaches.of_bridged`): what holds of the books has to hold as well of those that an open scope may bring
back (`Ledger.Throughout`). From both it follows that every grant which is stored after a run has limits,
none of which is zero, and that it stands since its creation, or since the run began, with the same
recipients and the same last second (`grants_stay_normal`).
-/

namespace EvmBank

/-! ## Limits -/

namespace Grant

variable {g : Grant}

/-- Some denomination has a limit, and none has a limit of zero. -/
structure Normal (g : Grant) : Prop where
  nonempty : g.spendLimit.isEmpty = false
  positive : ∀ d n, g.spendLimit.get? d = some n → n ≠ 0

/-- A limit of zero is dropped, so that no limit of zero comes in. -/
theorem positive_setLimit (h : ∀ d n, g.spendLimit.get? d = some n → n ≠ 0) (d : Denom) (n : Amount) :
    ∀ d' n', (g.setLimit d n).spendLimit.get? d' = some n' → n' ≠ 0 := by
  intro d' n' hget
  unfold setLimit at hget
  dsimp only at hget
  split at hget
  · rw [SortedMap.get?_erase] at hget
    split at hget
    · cases hget
    · exact h d' n' hget
  · rename_i hn
    rw [SortedMap.get?_insert] at hget
    split at hget
    · cases hget
      rwa [Quantity.isZero_iff] at hn
    · exact h d' n' hget

theorem normal_single (granter grantee : Address) (d : Denom) {n : Amount}
    (expiration : Option Seconds) (hn : n ≠ 0) : (single granter grantee d n expiration).Normal := by
  refine ⟨rfl, fun d' n' hget => ?_⟩
  rw [single, SortedMap.get?_insert] at hget
  split at hget
  · cases hget
    exact hn
  · cases hget

end Grant

/-! ## One call -/

namespace Token

section
variable (t : Token) (call : PrecompileCall) (l : Ledger) (owner spender : Address)

/-- The call is the owner's approval of an amount other than zero, while no grant to the spender is live.
The grant that it creates lets anyone receive coins, and ends the approval time after the block. -/
structure Creates (g : Grant) : Prop where
  vacant : liveGrant? l owner spender call.time = none
  approval : ∃ amount, amount ≠ 0 ∧ call.caller = owner ∧
    call.input = (TokenRequest.approve spender amount).calldata ∧
    g = ⟨owner, spender, SortedMap.empty.insert t.denom amount, [],
      some (call.time.satAdd t.approvalSeconds)⟩

/-- The call gives a live grant another limit. -/
structure Adjusts (g g' : Grant) : Prop where
  live : liveGrant? l owner spender call.time = some g
  limit : ∃ n, g' = g.setLimit t.denom n

/-- How a grant comes to be stored after a call that succeeds. -/
inductive Stores (g' : Grant) : Prop
  | created : t.Creates call l owner spender g' → Stores g'
  | adjusted {g : Grant} : t.Adjusts call l owner spender g g' → g'.spendLimit.isEmpty = false →
      Stores g'
  | kept : (∀ g, ¬t.Creates call l owner spender g) → l.grant? owner spender = some g' → Stores g'

end

variable {t : Token} {call : PrecompileCall} {l l' : Ledger} {owner spender : Address} {g g' : Grant}
  {r : TokenRequest}

theorem Creates.normal (h : t.Creates call l owner spender g) : g.Normal := by
  obtain ⟨amount, hamount, -, -, rfl⟩ := h.approval
  exact Grant.normal_single _ _ _ _ hamount

/-- A request that creates a grant is an approval. -/
theorem Creates.request (h : t.Creates call l owner spender g) (hinput : call.input = r.calldata) :
    call.caller = owner ∧ ∃ amount, r = .approve spender amount := by
  obtain ⟨amount, -, hcaller, happroval, -⟩ := h.approval
  exact ⟨hcaller, amount, TokenRequest.calldata_inj (hinput.symm.trans happroval)⟩

/-- An approval creates a grant of the caller to the spender that it names, and of no one else. -/
theorem Creates.parties_eq {s : Address} {amount : Amount} (h : t.Creates call l owner spender g)
    (hinput : call.input = (TokenRequest.approve s amount).calldata) :
    (owner, spender) = (call.caller, s) := by
  obtain ⟨rfl, _, ⟨⟩⟩ := h.request hinput
  rfl

/-- Only limits are set. -/
theorem Adjusts.terms (h : t.Adjusts call l owner spender g g') :
    g'.allowList = g.allowList ∧ g'.expiration = g.expiration := by
  obtain ⟨n, rfl⟩ := h.limit
  exact ⟨rfl, rfl⟩

theorem Stores.normal (h : t.Stores call l owner spender g')
    (hl : ∀ g, l.grant? owner spender = some g → g.Normal) : g'.Normal := by
  cases h with
  | created hc => exact hc.normal
  | adjusted ha hsome =>
    obtain ⟨n, rfl⟩ := ha.limit
    have hg := hl _ (liveGrant?_eq_some ha.live).1
    exact ⟨hsome, Grant.positive_setLimit hg.positive _ _⟩
  | kept _ hg => exact hl _ hg

/-- Keeping a live grant with another limit stores it, or drops it, and leaves the others. -/
theorem stores_keepGrant (moved : Ledger) {o s : Address} {n : Amount}
    (hother : (owner, spender) ≠ (o, s) → ∀ g, ¬t.Creates call l owner spender g)
    (hgrants : moved.books.grants = l.books.grants) (hlive : liveGrant? l o s call.time = some g)
    (h : (moved.keepGrant o s (g.setLimit t.denom n)).books.grant? owner spender = some g') :
    t.Stores call l owner spender g' := by
  have hparties : g.parties = (o, s) := Books.parties_of_grant? (liveGrant?_eq_some hlive).1
  rw [Ledger.grant?_keepGrant (g := g.setLimit t.denom n) hparties] at h
  split at h
  · rename_i hkey
    cases hkey
    split at h
    · cases h
    · rename_i hsome
      cases h
      exact .adjusted ⟨hlive, n, rfl⟩ (by simpa using hsome)
  · exact .kept (hother ‹_›) ((Books.grant?_of_grants hgrants).symm.trans h)

/-- Moving coins changes no grant. -/
theorem stores_moved {source target : Address} {amount : Amount}
    (hother : ∀ g, ¬t.Creates call l owner spender g)
    (hm : l.transfer source target t.denom amount = .ok l')
    (h : l'.books.grant? owner spender = some g') : t.Stores call l owner spender g' :=
  .kept hother ((Books.grant?_of_grants (Ledger.moves_of_transfer hm).grants).symm.trans h)

theorem Performs.stores {out : Bytes} (hp : t.Performs call.caller call.time l r out l')
    (hinput : call.input = r.calldata) (h : l'.grant? owner spender = some g') :
    t.Stores call l owner spender g' := by
  cases hp with
  | transfer hm | transferOwn hm =>
    exact stores_moved (fun _ hc => nomatch (hc.request hinput).2) hm h
  | transferGranted _ hlive _ _ hm =>
    exact stores_keepGrant (Ledger.addLog _ _) (fun _ _ hc => nomatch (hc.request hinput).2)
      (Ledger.moves_of_transfer hm).grants hlive h
  | increase hlive | decrease hlive =>
    exact stores_keepGrant l (fun _ _ hc => nomatch (hc.request hinput).2) rfl hlive h
  | approveLive hlive =>
    exact stores_keepGrant l (fun hkey _ hc => hkey (hc.parties_eq hinput)) rfl hlive h
  | @approveNothing s amount _ _ =>
    have h : (l.revokeGrant call.caller s).books.grant? owner spender = some g' := h
    rw [Ledger.books_revokeGrant, Books.grant?_revokeGrant] at h
    split at h
    · cases h
    · rename_i hkey
      exact .kept (fun _ hc => hkey (hc.parties_eq hinput)) h
  | @approveNew s amount hnone hamount =>
    have hset := h.symm.trans (Books.grant?_setGrant l.books _ owner spender)
    split at hset
    · rename_i hkey
      cases hkey
      exact .created ⟨hnone, amount, hamount, rfl, hinput, Option.some.inj hset⟩
    · rename_i hkey
      exact .kept (fun _ hc => hkey (hc.parties_eq hinput)) hset.symm
  | allowance | balanceOf | totalSupply => exact .kept (fun _ hc => nomatch (hc.request hinput).2) h

/-- A scope that is opened changes nothing of it. -/
theorem Stores.of_openScope (h : t.Stores call l.openScope owner spender g') :
    t.Stores call l owner spender g' := by
  cases h with
  | created hc => exact .created ⟨hc.vacant, hc.approval⟩
  | adjusted ha hsome => exact .adjusted ⟨ha.live, ha.limit⟩ hsome
  | kept hother hg => exact .kept (fun g hc => hother g ⟨hc.vacant, hc.approval⟩) hg

theorem Served.stores {out : PrecompileOutput} (h : t.Served call l r out l')
    (hg : l'.grant? owner spender = some g') : t.Stores call l owner spender g' := by
  obtain ⟨ran, hp, hc⟩ := h.performs
  rw [Ledger.grant?, Ledger.books_of_commit hc] at hg
  exact (hp.stores h.admits.input hg).of_openScope

end Token

/-! ## Scopes that may be rolled back -/

namespace Ledger

/-- `P` holds of the books, and of those that come back with any open scope but the outermost `floor`. -/
inductive Throughout (P : Books → Prop) (floor : Nat) : Ledger → Prop
  | outside {l : Ledger} : l.depth = floor → P l.books → Throughout P floor l
  | inside {base l : Ledger} : base.Within l → l.depth = base.depth + 1 →
      Throughout P floor base → P l.books → Throughout P floor l

namespace Throughout

variable {P Q : Books → Prop} {floor scope : Nat} {l l' : Ledger}

theorem holds (h : Throughout P floor l) : P l.books := by
  cases h with
  | outside _ hp | inside _ _ _ hp => exact hp

theorem floor_le (h : Throughout P floor l) : floor ≤ l.depth := by
  induction h with
  | outside hd _ => exact Nat.le_of_eq hd.symm
  | inside _ hd _ _ ih => omega

theorem min_floor (h : Throughout P floor l) : Throughout P (min floor l.depth) l := by
  rwa [Nat.min_eq_left h.floor_le]

theorem mono (h : Throughout P floor l) (hpq : ∀ b, P b → Q b) : Throughout Q floor l := by
  induction h with
  | outside hd hp => exact .outside hd (hpq _ hp)
  | inside hw hd _ hp ih => exact .inside hw hd ih (hpq _ hp)

theorem with_logs (h : Throughout P floor l) (logs : List Log) :
    Throughout P floor { l with logs } := by
  cases h with
  | outside hd hp => exact .outside hd hp
  | inside hw hd ho hp => exact .inside ⟨hw.scopes, hw.journal⟩ hd ho hp

theorem openScope (h : Throughout P floor l) : Throughout P floor l.openScope :=
  .inside (.openScope l) rfl h h.holds

theorem dispatch {table : PrecompileTable} {a : Address} {call : PrecompileCall}
    (h : Throughout P floor l) (hp : P (table.dispatch a call l).2.books) :
    Throughout P floor (table.dispatch a call l).2 := by
  have hdepth := table.dispatch_depth a call l
  cases h with
  | outside hd _ => exact .outside (hdepth.trans hd) hp
  | inside hw hd ho _ => exact .inside (PrecompileTable.dispatch_within hw) (hdepth.trans hd) ho hp

/-- A scope from before may be committed as well; there is one less of these then. -/
theorem commit (h : Throughout P floor l) (hc : l.commit scope = .ok l') :
    Throughout P (min floor l'.depth) l' := by
  obtain ⟨hd', hdl⟩ := depth_of_close true hc
  have hp' : P l'.books := by
    rw [books_of_commit hc]
    exact h.holds
  cases h with
  | outside hd _ => exact .outside (by omega) hp'
  | @inside base _ hw hd ho _ =>
    obtain rfl : base.depth = scope := by omega
    have hmin : min floor l'.depth = floor := by
      rw [hd']
      exact Nat.min_eq_left ho.floor_le
    rw [hmin]
    cases ho with
    | outside hb _ => exact .outside (hd'.trans hb) hp'
    | inside hw' hb ho' _ => exact .inside (hw.commit_into hd hw' hc) (hd'.trans hb) ho' hp'

theorem rollback (h : Throughout P floor l) (hfloor : floor ≤ scope)
    (hr : l.rollback scope = .ok l') : Throughout P (min floor l'.depth) l' := by
  obtain ⟨hd', hdl⟩ := depth_of_close false hr
  rw [hd', Nat.min_eq_left hfloor]
  cases h with
  | outside hd _ => omega
  | @inside base _ hw hd ho _ =>
    obtain rfl : base.depth = scope := by omega
    cases (hw.rollback_self hd).symm.trans hr
    exact ho.with_logs _

end Throughout

end Ledger

/-! ## Runs -/

/-- A call of a token, with the table of its block, or the opening or closing of a scope. -/
inductive BridgeStep where
  | dispatch (table : PrecompileTable) (address : Address) (call : PrecompileCall)
  | openScope
  | commit (scope : Nat)
  | rollback (scope : Nat)

namespace Ledger

/-- The ledger after a step. Where a scope cannot be closed, nothing is done. -/
def bridge (l : Ledger) : BridgeStep → Ledger
  | .dispatch table a call => (table.dispatch a call l).2
  | .openScope => l.openScope
  | .commit scope => (l.attempt (l.commit scope)).2
  | .rollback scope => (l.attempt (l.rollback scope)).2

def bridged (l : Ledger) (steps : List BridgeStep) : Ledger := steps.foldl bridge l

/-- None of the steps succeeds in rolling back one of the outermost `floor` scopes; those that are committed
no longer count. -/
def RollsBackOwn : (floor : Nat) → Ledger → List BridgeStep → Prop
  | _, _, [] => True
  | floor, l, step :: rest =>
    (∀ scope l', step = .rollback scope → l.rollback scope = .ok l' → floor ≤ scope) ∧
      RollsBackOwn (min floor (l.bridge step).depth) (l.bridge step) rest

/-- On a ledger without open scopes there is no other scope to roll back. -/
theorem rollsBackOwn_zero (l : Ledger) (steps : List BridgeStep) : RollsBackOwn 0 l steps := by
  induction steps generalizing l with
  | nil => trivial
  | cons step rest ih =>
    refine ⟨fun scope _ _ _ => Nat.zero_le scope, ?_⟩
    rw [Nat.zero_min]
    exact ih _

theorem Throughout.bridge {P : Books → Prop} {floor : Nat} {l : Ledger} {step : BridgeStep}
    (h : Throughout P floor l)
    (hown : ∀ scope l', step = .rollback scope → l.rollback scope = .ok l' → floor ≤ scope)
    (hcall : ∀ table a call, step = .dispatch table a call →
      P (table.dispatch a call l).2.books) :
    Throughout P (min floor (l.bridge step).depth) (l.bridge step) := by
  cases step with
  | dispatch table a call => exact (h.dispatch (hcall table a call rfl)).min_floor
  | openScope => exact h.openScope.min_floor
  | commit scope =>
    simp only [Ledger.bridge, attempt]
    split
    · exact h.commit ‹_›
    · exact h.min_floor
  | rollback scope =>
    simp only [Ledger.bridge, attempt]
    split
    · rename_i l' hr
      exact h.rollback (hown scope l' rfl hr) hr
    · exact h.min_floor

section
variable (start : Ledger) (steps : List BridgeStep)

/-- Somewhere among the steps, a call of the token on `l` succeeds and leaves `l'`. -/
def Serves (t : Token) (call : PrecompileCall) (l l' : Ledger) : Prop :=
  ∃ before table a out, before ++ [BridgeStep.dispatch table a call] <+: steps ∧
    table.lookup a = some t ∧ start.bridged before = l ∧ table.dispatch a call l = (some (.ok out), l')

/-- The books that calls among the steps lead to, each made on the books that the one before has left. -/
inductive Reaches : Books → Prop
  | start : Reaches start.books
  | call {t : Token} {call : PrecompileCall} {l l' : Ledger} :
      Reaches l.books → start.Serves steps t call l l' → Reaches l'.books

/-- The grant is stored in the books ever since it was created, or since the start, as `first`: but for
calls that are rolled back, none has dropped it, or created another one in its place. -/
inductive Stands (owner spender : Address) (first : Grant) : Books → Grant → Prop
  | start : start.grant? owner spender = some first → Stands owner spender first start.books first
  | created {t : Token} {call : PrecompileCall} {l l' : Ledger} :
      start.Serves steps t call l l' → t.Creates call l owner spender first →
      l'.grant? owner spender = some first → Stands owner spender first l'.books first
  | adjusted {t : Token} {call : PrecompileCall} {l l' : Ledger} {g g' : Grant} :
      Stands owner spender first l.books g → start.Serves steps t call l l' →
      t.Adjusts call l owner spender g g' → l'.grant? owner spender = some g' →
      Stands owner spender first l'.books g'
  | kept {t : Token} {call : PrecompileCall} {l l' : Ledger} {g : Grant} :
      Stands owner spender first l.books g → start.Serves steps t call l l' →
      (∀ g', ¬t.Creates call l owner spender g') → l'.grant? owner spender = some g →
      Stands owner spender first l'.books g

end

variable {start l l' : Ledger} {steps : List BridgeStep} {owner spender : Address} {b : Books}
  {g first : Grant}

theorem Serves.snoc {t : Token} {call : PrecompileCall} (h : start.Serves steps t call l l')
    (step : BridgeStep) : start.Serves (steps ++ [step]) t call l l' := by
  obtain ⟨before, table, a, out, hprefix, hserved⟩ := h
  exact ⟨before, table, a, out, hprefix.trans (List.prefix_append _ _), hserved⟩

theorem Serves.stores {t : Token} {call : PrecompileCall} (h : start.Serves steps t call l l')
    (hg : l'.grant? owner spender = some g) : t.Stores call l owner spender g := by
  obtain ⟨before, table, a, out, -, ht, -, hdispatch⟩ := h
  obtain ⟨r, hserved⟩ := PrecompileTable.served_of_dispatch ht hdispatch
  exact hserved.stores hg

namespace Reaches

theorem snoc (h : start.Reaches steps b) (step : BridgeStep) :
    start.Reaches (steps ++ [step]) b := by
  induction h with
  | start => exact .start
  | call _ hserves ih => exact .call ih (hserves.snoc step)

/-- A call on the ledger after the steps leaves it as it is, or succeeds. -/
theorem dispatch (h : start.Reaches steps (start.bridged steps).books) (table : PrecompileTable)
    (a : Address) (call : PrecompileCall) :
    start.Reaches (steps ++ [.dispatch table a call])
      (table.dispatch a call (start.bridged steps)).2.books := by
  have hbefore := h.snoc (.dispatch table a call)
  rcases PrecompileTable.dispatch_cases table a call (start.bridged steps) with
    ⟨-, he⟩ | ⟨t, ht, ⟨_, he⟩ | ⟨r, out, l', he, -⟩⟩
  · rwa [he]
  · rwa [he]
  · rw [he]
    exact .call hbefore ⟨steps, table, a, out, List.prefix_rfl, ht, rfl, he⟩

/-- The induction goes forward, over the steps that are left; `steps` are those that were made. -/
theorem of_throughout {floor : Nat} {rest : List BridgeStep}
    (h : Throughout (start.Reaches steps) floor (start.bridged steps))
    (hown : RollsBackOwn floor (start.bridged steps) rest) :
    start.Reaches (steps ++ rest) (start.bridged (steps ++ rest)).books := by
  induction rest generalizing steps floor with
  | nil =>
    rw [List.append_nil]
    exact h.holds
  | cons step rest ih =>
    obtain ⟨hstep, hrest⟩ := hown
    have hnext : start.bridged (steps ++ [step]) = (start.bridged steps).bridge step :=
      List.foldl_append
    have hlater := h.mono fun b (hb : start.Reaches steps b) => hb.snoc step
    have hafter := hlater.bridge hstep fun table a call hcall => by
      subst hcall
      exact h.holds.dispatch table a call
    rw [← hnext] at hafter hrest
    have hdone := ih hafter hrest
    rwa [List.append_assoc] at hdone

/-- Where no scope from before is rolled back, the books are those after the calls that were not rolled
back. -/
theorem of_bridged (hown : RollsBackOwn start.depth start steps) :
    start.Reaches steps (start.bridged steps).books :=
  @of_throughout start [] start.depth steps (.outside rfl .start) hown

theorem normal (h : start.Reaches steps b)
    (hstart : ∀ owner spender g, start.grant? owner spender = some g → g.Normal)
    (hg : b.grant? owner spender = some g) : g.Normal := by
  induction h generalizing g with
  | start => exact hstart owner spender g hg
  | call _ hserves ih => exact (hserves.stores hg).normal fun _ => ih

theorem stands (h : start.Reaches steps b) (hg : b.grant? owner spender = some g) :
    ∃ first, start.Stands steps owner spender first b g := by
  induction h generalizing g with
  | start => exact ⟨g, .start hg⟩
  | call _ hserves ih =>
    cases hserves.stores hg with
    | created hc => exact ⟨g, .created hserves hc hg⟩
    | adjusted ha _ =>
      obtain ⟨first, hfirst⟩ := ih (Token.liveGrant?_eq_some ha.live).1
      exact ⟨first, .adjusted hfirst hserves ha hg⟩
    | kept hother hbefore =>
      obtain ⟨first, hfirst⟩ := ih hbefore
      exact ⟨first, .kept hfirst hserves hother hg⟩

end Reaches

/-- A grant changes in its limits only. -/
theorem Stands.terms (h : start.Stands steps owner spender first b g) :
    g.allowList = first.allowList ∧ g.expiration = first.expiration := by
  induction h with
  | start _ | created _ _ _ => exact ⟨rfl, rfl⟩
  | adjusted _ _ ha _ ih => exact ⟨ha.terms.1.trans ih.1, ha.terms.2.trans ih.2⟩
  | kept _ _ _ _ ih => exact ih

/-- Start on a ledger whose grants all have limits, none of which is zero, and make any calls of tokens, in
scopes that are committed or rolled back, as long as no scope is rolled back that was open before; it may
be asked for, if it is refused. Then every grant that is stored has limits, none of which is zero, and is
stored under its own parties. It stands since an approval that found no live grant created it, or since the
start, with the recipients and the last second that it had then. -/
theorem grants_stay_normal (start : Ledger) (steps : List BridgeStep)
    (hnormal : ∀ owner spender g, start.grant? owner spender = some g → g.Normal)
    (hown : RollsBackOwn start.depth start steps) (owner spender : Address) (g : Grant)
    (hg : (start.bridged steps).grant? owner spender = some g) :
    g.Normal ∧ g.parties = (owner, spender) ∧
      ∃ first, start.Stands steps owner spender first (start.bridged steps).books g ∧
        g.allowList = first.allowList ∧ g.expiration = first.expiration := by
  have hreached := Reaches.of_bridged hown
  obtain ⟨first, hfirst⟩ := hreached.stands hg
  exact ⟨hreached.normal hnormal hg, Books.parties_of_grant? hg, first, hfirst, hfirst.terms⟩

/-- An account that has coins, and lets another spend a few of another denomination, on one recipient. -/
def delegating : Ledger :=
  (empty.mint (.ofLow 1) "aledger" 10).setGrant
    { Grant.single (.ofLow 1) (.ofLow 3) "uold" 5 none with allowList := [.ofLow 4] }

/-- A call of the token of `aledger`. -/
def calling (caller : Address) (time : Seconds) (r : TokenRequest) : BridgeStep :=
  .dispatch ⟨#[⟨.module, ⟨.ofLow 9, "aledger", 60⟩⟩]⟩ (.ofLow 9)
    ⟨r.calldata, caller, 0, 100000, false, time⟩

/-- An approval, all of which is spent in a scope that is rolled back; it is lowered afterwards, and
another one goes to the account that has a grant. -/
def approving : List BridgeStep :=
  [.openScope, calling (.ofLow 1) 1000 (.approve (.ofLow 2) 5),
    .openScope, calling (.ofLow 2) 1010 (.transferFrom (.ofLow 1) (.ofLow 4) 5), .rollback 1,
    calling (.ofLow 1) 1030 (.decreaseAllowance (.ofLow 2) 2),
    calling (.ofLow 1) 1030 (.approve (.ofLow 3) 7), .commit 0]

/-- Once it is all spent, the approval is gone; then it is there again, with the last second that it was
created with. The grant from before has a second limit, and is as it was otherwise. -/
theorem spent_grant_comes_back :
    let lowered : Grant := Grant.single (.ofLow 1) (.ofLow 2) "aledger" 3 (some 1060)
    let raised : Grant :=
      ⟨.ofLow 1, .ofLow 3, .ofList [("uold", 5), ("aledger", 7)], [.ofLow 4], none⟩
    (∀ owner spender g, delegating.grant? owner spender = some g → g.Normal) ∧
      RollsBackOwn delegating.depth delegating approving ∧
      (delegating.bridged (approving.take 4)).grant? (.ofLow 1) (.ofLow 2) = none ∧
      (delegating.bridged approving).grant? (.ofLow 1) (.ofLow 2) = some lowered ∧ lowered.Normal ∧
      (∃ first, delegating.Stands approving (.ofLow 1) (.ofLow 2) first
        (delegating.bridged approving).books lowered ∧ lowered.expiration = first.expiration) ∧
      (delegating.bridged approving).grant? (.ofLow 1) (.ofLow 3) = some raised ∧ raised.Normal := by
  intro lowered raised
  have hnormal : ∀ owner spender g, delegating.grant? owner spender = some g → g.Normal := by
    intro owner spender g hg
    have hset := hg.symm.trans (Books.grant?_setGrant _ _ owner spender)
    split at hset
    · cases hset
      have hfive : (5 : Amount) ≠ 0 := by decide
      exact ⟨rfl, (Grant.normal_single (.ofLow 1) (.ofLow 3) "uold" none hfive).positive⟩
    · cases hset
  have hown : RollsBackOwn delegating.depth delegating approving := rollsBackOwn_zero _ _
  have hspent : (delegating.bridged (approving.take 4)).grant? (.ofLow 1) (.ofLow 2) = none := by
    decide +kernel
  have hlowered : (delegating.bridged approving).grant? (.ofLow 1) (.ofLow 2) = some lowered := by
    decide +kernel
  have hraised : (delegating.bridged approving).grant? (.ofLow 1) (.ofLow 3) = some raised := by
    decide +kernel
  obtain ⟨hn, -, first, hfirst, -, hexpiration⟩ :=
    grants_stay_normal delegating approving hnormal hown _ _ lowered hlowered
  have hn' := (grants_stay_normal delegating approving hnormal hown _ _ raised hraised).1
  exact ⟨hnormal, hown, hspent, hlowered, hn, ⟨first, hfirst, hexpiration⟩, hraised, hn'⟩

end Ledger

end EvmBank
