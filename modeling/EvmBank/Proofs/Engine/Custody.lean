import EvmBank.Proofs.Engine.Outcomes
import EvmBank.Proofs.Execution.Native
import EvmBank.Proofs.Token.Custody

/-!
# Nobody's coins are spent without a grant

Whatever messages others send, the unpledged coins of an account do not get fewer
(`step_unpledged_le`), also where the account is the fee collector: what it pays back is no more than
it was paid. A message of another that lowers its balance spends under a grant to the sender
(`step_spends`). Both are carried from the stages of a message to all runs of an engine
(`after_keeps_custody`).
-/

namespace EvmBank

/-! ## One message -/

namespace Transition

variable {h : Host} {c : ExecutionConfig} {m : Message} {price : Amount} {intrinsic : Gas}
  {l l' : Ledger} {a : Address} {d : Denom}

/-- What an account that does not send the message is paid for its gas. -/
def fee (c : ExecutionConfig) (m : Message) (price : Amount) (a : Address) (d : Denom) : Nat :=
  if a = c.feeCollector ∧ d = c.evmDenom then (price.satMul m.gasLimit.widen).toNat else 0

theorem Bought.grants (hb : Bought c m price l l') : l'.books.grants = l.books.grants := by
  obtain ⟨paid, hp, rfl⟩ := hb.paid
  rw [Ledger.books_setNonce]
  exact (Ledger.moves_of_transfer hp).grants

theorem Bought.balance_eq (hb : Bought c m price l l') (ha : a ≠ m.sender) :
    (l'.books.balance a d).toNat = (l.books.balance a d).toNat + fee c m price a d := by
  obtain ⟨paid, hp, rfl⟩ := hb.paid
  have := (Ledger.moves_of_transfer hp).balance a d
  rw [Ledger.books_setNonce]
  simp only [ha, false_and, if_false, Nat.add_zero] at this
  exact this

/-- No more is paid back than was paid. -/
theorem Returned.balance_le (hr : Returned c m price l l') (ha : a ≠ m.sender) :
    (l.books.balance a d).toNat ≤ (l'.books.balance a d).toNat + fee c m price a d := by
  cases hr with
  | nothing => exact Nat.le_add_right _ _
  | @paid leftover _ hle ht =>
    have hmoved := (Ledger.moves_of_transfer ht).balance a d
    have hle := Quantity.le_def.mp (satMul_widen_le price hle)
    simp only [ha, false_and, if_false] at hmoved
    unfold fee
    by_cases hf : a = c.feeCollector ∧ d = c.evmDenom
    · rw [if_pos hf] at hmoved ⊢
      omega
    · rw [if_neg hf] at hmoved ⊢
      omega

theorem Returned.grants (hr : Returned c m price l l') : l'.books.grants = l.books.grants := by
  cases hr with
  | nothing => rfl
  | paid _ ht => exact (Ledger.moves_of_transfer ht).grants

/-- A message has a token move coins of an account, under a grant of the account to its sender that
has not expired and admits who receives the coins. -/
def Spends (table : PrecompileTable) (m : Message) (time : Seconds) (b : Books) (a : Address)
    (d : Denom) : Prop :=
  ∃ target t recipient amount g, m.recipient = some target ∧ table.lookup target = some t ∧
    t.denom = d ∧ m.data = (TokenRequest.transferFrom a recipient amount).calldata ∧
    b.grant? a m.sender = some g ∧ (∀ last, g.expiration = some last → time ≤ last) ∧
    (g.allowList = [] ∨ recipient ∈ g.allowList)

theorem time_le_of_live {g : Grant} {time last : Seconds} (h : g.isExpired time = false)
    (hg : g.expiration = some last) : time ≤ last := by
  unfold Grant.isExpired at h
  rw [hg] at h
  exact Nat.le_of_not_lt (of_decide_eq_false h)

theorem allowed_of_allows {g : Grant} {recipient : Address} (h : g.allows recipient = true) :
    g.allowList = [] ∨ recipient ∈ g.allowList := by
  simpa [Grant.allows] using h

/-- What holds of coins that are not the sender's, from the books before to those after. -/
structure KeepsCustody (spends : Prop) (a : Address) (d : Denom) (b b' : Books) : Prop where
  unpledged : b.unpledged a d ≤ b'.unpledged a d
  balance : (b'.balance a d).toNat < (b.balance a d).toNat → spends

theorem KeepsCustody.of_le {spends : Prop} {b b' : Books} (hgrants : b'.grants = b.grants)
    (hbalance : (b.balance a d).toNat ≤ (b'.balance a d).toNat) : KeepsCustody spends a d b b' := by
  refine ⟨?_, fun hlow => absurd hlow (Nat.not_lt_of_le hbalance)⟩
  have := Books.pledged_of_grants (a := a) (d := d) hgrants
  unfold Books.unpledged
  omega

/-- What an execution does with the coins of others. -/
theorem does_keepsCustody {available : Gas} (hd : Native.Does h c m available l l')
    (ha : a ≠ m.sender) :
    KeepsCustody (Spends h.precompiles m h.block.time l.books a d) a d l.books l'.books := by
  have sends {target : Address} {sent : Ledger} (hs : Native.Sends c m target l sent) :
      KeepsCustody (Spends h.precompiles m h.block.time l.books a d) a d l.books sent.books := by
    rcases hs with ⟨-, rfl⟩ | ht
    · exact .of_le rfl (Nat.le_refl _)
    · have hmoved := Ledger.moves_of_transfer ht
      have hb := hmoved.balance a d
      simp only [ha, false_and, if_false] at hb
      exact .of_le hmoved.grants (by omega)
  cases hd with
  | calls hrecipient ht hs =>
    refine ⟨hs.unpledged_le ha d, fun hlow => ?_⟩
    obtain ⟨rfl, recipient, amount, g, rfl, hg, hlive, hallows, -⟩ := hs.spends ha hlow
    exact ⟨_, _, recipient, amount, g, hrecipient, ht, rfl, hs.admits.input, hg,
      fun _ => time_le_of_live hlive, allowed_of_allows hallows⟩
  | sends _ hs => exact sends hs
  | deploys _ hs =>
    rw [Ledger.books_setCode, Ledger.books_setNonce]
    exact ⟨(sends hs).unpledged, (sends hs).balance⟩

theorem executed_keepsCustody {available : Gas} {result : ExecutionResult}
    (hx : Executed Native.interpreter h c m available l result l') (ha : a ≠ m.sender) :
    KeepsCustody (Spends h.precompiles m h.block.time l.books a d) a d l.books l'.books := by
  cases hx with
  | denied | reverted => exact .of_le rfl (Nat.le_refl _)
  | kept _ hrun _ hkept _ hc =>
    rw [Ledger.books_of_commit hc]
    have hk := does_keepsCustody (a := a) (d := d) (Native.run_does hrun hkept) ha
    exact hk

theorem Spends.of_grants {table : PrecompileTable} {time : Seconds} {b b' : Books}
    (h : b'.grants = b.grants) (hs : Spends table m time b' a d) : Spends table m time b a d := by
  unfold Spends Books.grant? at *
  rwa [h] at hs

/-- Gas that was bought before and is paid back after makes up for each other. -/
theorem KeepsCustody.around {spends spends' : Prop} {b b₁ b₂ b' : Books} {paid : Nat}
    (hk : KeepsCustody spends a d b₁ b₂) (hspends : spends → spends')
    (hg : b₁.grants = b.grants) (hg' : b'.grants = b₂.grants)
    (hb : (b₁.balance a d).toNat = (b.balance a d).toNat + paid)
    (hb' : (b₂.balance a d).toNat ≤ (b'.balance a d).toNat + paid) :
    KeepsCustody spends' a d b b' := by
  obtain ⟨hu, hlow⟩ := hk
  have hp := Books.pledged_of_grants (a := a) (d := d) hg
  have hp' := Books.pledged_of_grants (a := a) (d := d) hg'
  refine ⟨?_, fun h => hspends (hlow ?_)⟩
  · unfold Books.unpledged at *
    omega
  · omega

theorem reached_keepsCustody (hr : Reached Native.interpreter h c m price intrinsic l l')
    (ha : a ≠ m.sender) :
    KeepsCustody (Spends h.precompiles m h.block.time l.books a d) a d l.books l'.books := by
  cases hr with
  | start => exact .of_le rfl (Nat.le_refl _)
  | bought hb => exact .of_le hb.grants (by rw [hb.balance_eq ha]; exact Nat.le_add_right _ _)
  | executed hb _ hx =>
    exact (executed_keepsCustody hx ha).around (.of_grants hb.grants) hb.grants rfl
      (hb.balance_eq ha) (Nat.le_add_right _ _)

theorem finished_keepsCustody (hf : Finished Native.interpreter h c m price intrinsic l l')
    (ha : a ≠ m.sender) :
    KeepsCustody (Spends h.precompiles m h.block.time l.books a d) a d l.books l'.books := by
  obtain ⟨hb, _, hx, hr⟩ := hf
  exact (executed_keepsCustody hx ha).around (.of_grants hb.grants) hb.grants hr.grants
    (hb.balance_eq ha) (hr.balance_le ha)

end Transition

/-! ## Runs of an engine -/

/-- A step of an engine whose messages are executed without a virtual machine. -/
inductive EngineStep where
  | apply (m : Message) (b : Block) (meter : Meter) (keep : Bool)
  | register (pair : TokenPair)
  | toggle (key : String)
  | updateParams (params : Params)
  | setProposer (proposer : Bytes)

/-- Who sends a message in the step. -/
def EngineStep.sender? : EngineStep → Option Address
  | .apply m .. => some m.sender
  | _ => none

namespace Engine

open Transition

/-- The engine after a step, whatever it came to. -/
def step (e : Engine) : EngineStep → Engine
  | .apply m b meter keep => (e.apply Native.interpreter m b meter keep).2
  | .register pair => (e.register pair).2
  | .toggle key => (e.toggle key).2
  | .updateParams params => (e.updateParams params).2
  | .setProposer proposer => e.setProposer proposer

/-- The engine after some steps. -/
def after (e : Engine) (steps : List EngineStep) : Engine := steps.foldl step e

/-- In the step, a message spends coins of an account under a grant to its sender. -/
def StepSpends (e : Engine) (s : EngineStep) (a : Address) (d : Denom) : Prop :=
  ∃ m b meter keep table, s = .apply m b meter keep ∧ (e.tableFor b.height).1 = .ok table ∧
    Spends table m b.time e.ledger.books a d

variable {e : Engine} {a : Address} {d : Denom}

theorem apply_keepsCustody {m : Message} {b : Block} {meter : Meter} {keep : Bool}
    (ha : a ≠ m.sender) :
    KeepsCustody (e.StepSpends (.apply m b meter keep) a d) a d e.ledger.books
      (e.apply Native.interpreter m b meter keep).2.ledger.books := by
  rcases books_of_apply Native.interpreter_wellNested e m b meter keep with
    hsame | ⟨c, price, intrinsic, l, hadmits, hbooks, hr | hf⟩
  · rw [hsame]
    exact .of_le rfl (Nat.le_refl _)
  · rw [hbooks]
    have hk := reached_keepsCustody (a := a) (d := d) hr ha
    exact ⟨hk.unpledged, fun hlow => ⟨m, b, meter, keep, _, rfl, hadmits.table, hk.balance hlow⟩⟩
  · rw [hbooks]
    have hk := finished_keepsCustody (a := a) (d := d) hf ha
    exact ⟨hk.unpledged, fun hlow => ⟨m, b, meter, keep, _, rfl, hadmits.table, hk.balance hlow⟩⟩

theorem register_ledger (e : Engine) (pair : TokenPair) :
    (e.register pair).2.ledger = e.ledger := by
  unfold register
  split <;> rfl

theorem toggle_ledger (e : Engine) (key : String) : (e.toggle key).2.ledger = e.ledger := by
  unfold toggle
  split <;> rfl

theorem updateParams_ledger (e : Engine) (params : Params) :
    (e.updateParams params).2.ledger = e.ledger := by
  unfold updateParams
  split <;> rfl

/-- Nothing but a message changes the ledger. -/
theorem step_ledger (e : Engine) (s : EngineStep) :
    (∃ m b meter keep, s = .apply m b meter keep) ∨ (e.step s).ledger = e.ledger := by
  cases s with
  | apply m b meter keep => exact .inl ⟨m, b, meter, keep, rfl⟩
  | register pair => exact .inr (register_ledger e pair)
  | toggle key => exact .inr (toggle_ledger e key)
  | updateParams params => exact .inr (updateParams_ledger e params)
  | setProposer proposer => exact .inr rfl

theorem step_keepsCustody {s : EngineStep} (ha : s.sender? ≠ some a) :
    KeepsCustody (e.StepSpends s a d) a d e.ledger.books (e.step s).ledger.books := by
  rcases step_ledger e s with ⟨m, b, meter, keep, rfl⟩ | hsame
  · exact apply_keepsCustody fun h => ha (congrArg some h.symm)
  · rw [hsame]
    exact .of_le rfl (Nat.le_refl _)

theorem after_unpledged_le {steps : List EngineStep} (ha : ∀ s ∈ steps, s.sender? ≠ some a) :
    e.ledger.books.unpledged a d ≤ (e.after steps).ledger.books.unpledged a d := by
  induction steps generalizing e with
  | nil => exact Int.le_refl _
  | cons s rest ih =>
    have hstep := (step_keepsCustody (e := e) (d := d) (ha s List.mem_cons_self)).unpledged
    exact Int.le_trans hstep (ih fun s' hs' => ha s' (List.mem_cons_of_mem _ hs'))

/-- Along a run in which an account sends no message, its unpledged coins do not get fewer from one
step to the next; where its balance goes down, a message spends under a grant to its sender; and all
that it loses is what its grants have been used up by. -/
theorem custody_of_others {steps : List EngineStep} (ha : ∀ s ∈ steps, s.sender? ≠ some a)
    (e : Engine) (d : Denom) :
    (∀ before s after, steps = before ++ s :: after →
      (e.after before).ledger.books.unpledged a d ≤
          ((e.after before).step s).ledger.books.unpledged a d ∧
        ((((e.after before).step s).ledger.balance a d).toNat <
            ((e.after before).ledger.balance a d).toNat →
          (e.after before).StepSpends s a d)) ∧
      ((e.ledger.balance a d).toNat : Int) - ((e.after steps).ledger.balance a d).toNat ≤
        (e.ledger.books.pledged a d : Int) - (e.after steps).ledger.books.pledged a d := by
  refine ⟨?_, ?_⟩
  · rintro before s after rfl
    have hs := ha s (List.mem_append_right _ List.mem_cons_self)
    obtain ⟨hunpledged, hbalance⟩ := step_keepsCustody (e := e.after before) (d := d) hs
    exact ⟨hunpledged, hbalance⟩
  · have := after_unpledged_le (e := e) (d := d) ha
    unfold Books.unpledged at this
    unfold Ledger.balance
    omega

/-- Account 1 has the token move 40 coins of account 3. -/
def smallSpending : EngineStep :=
  .apply
    ⟨.ofLow 1, some (.ofLow 4), 0, (TokenRequest.transferFrom (.ofLow 3) (.ofLow 5) 40).calldata,
      60000, .legacy 2, 0, []⟩
    smallBlock (.ofLimit 100000) true

/-- Account 3 sends nothing, and loses coins under its grant. -/
theorem custody_of_account_three :
    (∀ s ∈ [smallSpending], s.sender? ≠ some (.ofLow 3)) ∧
      (small.step smallSpending).ledger.balance (.ofLow 3) "aledger" = 460 ∧
      small.StepSpends smallSpending (.ofLow 3) "aledger" :=
  have hs : ∀ s ∈ [smallSpending], s.sender? ≠ some (.ofLow 3) := by decide
  ⟨hs, rfl, ((custody_of_others hs small "aledger").1 [] smallSpending [] rfl).2 (by decide)⟩

end Engine

end EvmBank
