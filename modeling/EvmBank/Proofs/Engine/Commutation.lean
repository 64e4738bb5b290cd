import EvmBank.Proofs.Engine.Payment

/-!
# Payments in either order

Two payments of different senders settle to the same in either order, though they share the collector
of the fees and may pay each other (`Payment.Settles.commute`). The first one leaves the second admitted,
since it spends nothing of the other sender (`Affords.after`). So both get the same receipts in either
order, but for one thing: the logs that were buffered before are in the receipt of whichever is applied
first (`payments_commute`, `first_receipt_has_buffered_log`).
-/

namespace EvmBank

-- Powers are those of the core library, also beside more general ones.
attribute [local instance (high)] instPowNat

/-! ## Settlements -/

/-- All that can be asked of two books is answered alike. -/
structure Books.Agrees (b b' : Books) : Prop where
  balance : ∀ a d, b.balance a d = b'.balance a d
  nonce : ∀ a, b.nonce a = b'.nonce a
  code : ∀ a, b.code a = b'.code a
  grant : ∀ granter grantee, b.grant? granter grantee = b'.grant? granter grantee
  supply : ∀ d, b.supply d = b'.supply d
  isOpen : ∀ a, b.isOpen a = b'.isOpen a

namespace Payment.Settles

variable {p q : Payment} {b b₁ b₂ b₁₂ b₂₁ : Books}

/-- Nobody but the sender pays. -/
theorem balance_le (hs : p.Settles b b₁) {a : Address} (ha : a ≠ p.sender) (d : Denom) :
    b.balance a d ≤ b₁.balance a d := by
  have hbalance := hs.balance a d
  rw [if_neg fun he => ha he.1] at hbalance
  rw [Quantity.le_def]
  omega

theorem commute (hne : p.sender ≠ q.sender) (hp : p.Settles b b₁) (hpq : q.Settles b₁ b₁₂)
    (hq : q.Settles b b₂) (hqp : p.Settles b₂ b₂₁) : b₁₂.Agrees b₂₁ where
  balance a d := by
    have h₁ := hp.balance a d
    have h₁₂ := hpq.balance a d
    have h₂ := hq.balance a d
    have h₂₁ := hqp.balance a d
    exact Quantity.toNat_inj.mp (by omega)
  nonce a := by
    rw [hpq.nonce, hp.nonce, hqp.nonce, hq.nonce]
    by_cases ha : a = p.sender
    · rw [if_pos ha, if_neg fun he => hne (ha.symm.trans he), if_pos ha]
    · rw [if_neg ha, if_neg ha]
  code a := by rw [Books.code, Books.code, hpq.codes, hp.codes, hqp.codes, hq.codes]
  grant granter grantee := by
    rw [Books.grant?, Books.grant?, hpq.grants, hp.grants, hqp.grants, hq.grants]
  supply d := by rw [Books.supply, Books.supply, hpq.supplies, hp.supplies, hqp.supplies, hq.supplies]
  isOpen a := by
    rw [hpq.isOpen, hp.isOpen, hqp.isOpen, hq.isOpen]
    ac_rfl

end Payment.Settles

/-! ## One message after the other -/

namespace Engine

open Transition

variable {e : Engine} {m : Message} {b : Block} {limit : Gas} {c : ExecutionConfig} {price : Amount}
  {intrinsic : Gas} {target : Address} {ledger : Ledger}

/-- The ledger has no part in finding a table. -/
theorem tableFor_with_ledger (e : Engine) (ledger : Ledger) (height : Height) :
    { e with ledger }.tableFor height =
      ((e.tableFor height).1, { (e.tableFor height).2 with ledger }) := by
  have hbuild : { e with ledger }.buildTable height =
      ((e.buildTable height).1, { (e.buildTable height).2 with ledger }) := by
    simp only [buildTable]
    split <;> rfl
  simp only [tableFor, hbuild]
  split
  · split
    · rfl
    · rfl
  · rfl

/-- Of a message that was applied before, only the ledger matters to another one of its block. -/
theorem apply_after {ν ν' : Type} (e : Engine) (interpreter : Interpreter ν)
    (interpreter' : Interpreter ν') (m m' : Message) (b : Block) (meter meter' : Meter)
    (keep keep' : Bool) :
    (e.apply interpreter m b meter keep).2.apply interpreter' m' b meter' keep' =
      { e with ledger := (e.apply interpreter m b meter keep).2.ledger }.apply interpreter' m' b meter'
        keep' := by
  obtain ⟨ledger, hsnd⟩ := apply_snd_tableFor e interpreter m b meter keep
  have htable : (e.apply interpreter m b meter keep).2 =
      ({ e with ledger := (e.apply interpreter m b meter keep).2.ledger }.tableFor b.height).2 := by
    rw [tableFor_with_ledger, hsnd]
  conv_lhs => rw [htable]
  exact apply_tableFor _ interpreter' m' b meter' keep'

theorem Pays.with_ledger (hp : e.Pays m b target) (hcode : ledger.code target = []) :
    { e with ledger }.Pays m b target where
  recipient := hp.recipient
  code := hcode
  token := by
    rw [tableFor_with_ledger]
    exact hp.token

theorem Admits.with_ledger {meter : Meter} (ha : e.Admits m b meter c price intrinsic)
    (hchecked : m.precheck c ledger meter.limit = .ok (price, intrinsic)) :
    { e with ledger }.Admits m b meter c price intrinsic where
  table := by
    rw [tableFor_with_ledger]
    exact ha.table
  config := ha.config
  checked := hchecked

/-- An engine in use, whose coins can all be counted together and whose collector exists, admits a
message as a payment, on a meter of its own. -/
structure Affords (e : Engine) (m : Message) (b : Block) (limit : Gas) (c : ExecutionConfig)
    (price : Amount) (intrinsic : Gas) (target : Address) : Prop where
  built : e.Built
  held : e.ledger.books.held e.params.evmDenom < 2 ^ (256 : Nat)
  collector : e.ledger.accountExists e.params.feeCollector = true
  pays : e.Pays m b target
  admits : e.Admits m b (.ofLimit limit) c price intrinsic

/-- A payment of somebody else takes none of this away. -/
theorem Affords.after {p : Payment} (ha : e.Affords m b limit c price intrinsic target)
    (hs : p.Settles e.ledger.books ledger.books) (hne : m.sender ≠ p.sender) :
    { e with ledger }.Affords m b limit c price intrinsic target where
  built := .useLedger ledger ha.built
  held := by
    rw [hs.held]
    exact ha.held
  collector := by
    have hopen : e.ledger.books.isOpen e.params.feeCollector = true := ha.collector
    rw [Ledger.accountExists, hs.isOpen, hopen, Bool.or_true, Bool.or_true]
  pays := by
    refine ha.pays.with_ledger ?_
    rw [Ledger.code, Books.code, hs.codes]
    exact ha.pays.code
  admits := by
    obtain ⟨hrules, hnonce, heffective, ⟨cost, hcost, hfunds⟩, hcharged, haffordable⟩ := ha.admits.passes
    have hleft := Nat.le_trans hfunds (hs.balance_le hne _)
    refine ha.admits.with_ledger (Message.precheck_eq_ok.mpr ⟨hrules, ?_, heffective,
      ⟨cost, hcost, hleft⟩, hcharged, haffordable⟩)
    rw [Ledger.nonce, hs.nonce, if_neg hne]
    exact hnonce

/-- The buffer of logs has no part in it. -/
theorem Affords.addLog (ha : e.Affords m b limit c price intrinsic target) (log : Log) :
    { e with ledger := e.ledger.addLog log }.Affords m b limit c price intrinsic target where
  built := .useLedger _ ha.built
  held := ha.held
  collector := ha.collector
  pays := ha.pays.with_ledger ha.pays.code
  admits := ha.admits.with_ledger ha.admits.checked

/-- On whatever ledger a payment is settled, it gets the same receipt, but for the logs from before, and
settles the same. -/
theorem Affords.settles_alike {e' : Engine} (ha : e.Affords m b limit c price intrinsic target)
    (ha' : e'.Affords m b limit c price intrinsic target) :
    let applied := e.apply Native.interpreter m b (.ofLimit limit) true
    let applied' := e'.apply Native.interpreter m b (.ofLimit limit) true
    ∃ (receipt : Receipt) (p : Payment), receipt.logs = [] ∧ p.sender = m.sender ∧
      applied.1.result = .ok { receipt with logs := e.ledger.logs } ∧
      applied'.1.result = .ok { receipt with logs := e'.ledger.logs } ∧
      applied'.1.meter = applied.1.meter ∧
      p.Settles e.ledger.books applied.2.ledger.books ∧
      p.Settles e'.ledger.books applied'.2.ledger.books ∧
      applied.2.ledger.logs = [] := by
  obtain ⟨s, hresult, hcharged, hlogs, hok, hmeter, hsettles, hempty⟩ :=
    ha.admits.settles ha.built ha.held ha.collector ha.pays rfl
  obtain ⟨s', hresult', hcharged', hlogs', hok', hmeter', hsettles', -⟩ :=
    ha'.admits.settles ha'.built ha'.held ha'.collector ha'.pays rfl
  have hsame : s'.result = s.result := hresult'.trans hresult.symm
  rw [hsame] at hcharged'
  have htally := hcharged'.unique hcharged
  refine ⟨{ s.receipt price with logs := [] }, payment c m target price s.tally.used, rfl, rfl, ?_, ?_,
    ?_, hsettles, htally ▸ hsettles', hempty⟩
  · rw [hok, ← hlogs]
    rfl
  · rw [hok', ← hlogs', Stages.receipt, hsame, htally]
    rfl
  · rw [hmeter', hmeter, htally]

/-- Two payments of different senders in one block, each of which would be admitted alone, get receipts
in either order, and come to the same: the same balances, nonces, codes, grants, supplies and accounts,
and each to the same meter and the same receipt; but for the logs that were buffered before, which the
receipt of the first one has. Either may pay the other sender or the collector, or be the collector. -/
theorem payments_commute {m₁ m₂ : Message} {limit₁ limit₂ : Gas} {c₁ c₂ : ExecutionConfig}
    {price₁ price₂ : Amount} {intrinsic₁ intrinsic₂ : Gas} {target₁ target₂ : Address}
    (hsenders : m₁.sender ≠ m₂.sender)
    (h₁ : e.Affords m₁ b limit₁ c₁ price₁ intrinsic₁ target₁)
    (h₂ : e.Affords m₂ b limit₂ c₂ price₂ intrinsic₂ target₂) :
    let first₁ := e.apply Native.interpreter m₁ b (.ofLimit limit₁) true
    let then₂ := first₁.2.apply Native.interpreter m₂ b (.ofLimit limit₂) true
    let first₂ := e.apply Native.interpreter m₂ b (.ofLimit limit₂) true
    let then₁ := first₂.2.apply Native.interpreter m₁ b (.ofLimit limit₁) true
    (∃ receipt₁ receipt₂ : Receipt, receipt₁.logs = [] ∧ receipt₂.logs = [] ∧
      first₁.1.result = .ok { receipt₁ with logs := e.ledger.logs } ∧
      then₂.1.result = .ok receipt₂ ∧
      first₂.1.result = .ok { receipt₂ with logs := e.ledger.logs } ∧
      then₁.1.result = .ok receipt₁) ∧
    then₁.1.meter = first₁.1.meter ∧ then₂.1.meter = first₂.1.meter ∧
    then₂.2.ledger.books.Agrees then₁.2.ledger.books := by
  dsimp only
  rw [apply_after, apply_after]
  obtain ⟨_, p₁, -, hp₁, -, -, -, hsettles₁, -⟩ := h₁.settles_alike h₁
  obtain ⟨_, p₂, -, hp₂, -, -, -, hsettles₂, -⟩ := h₂.settles_alike h₂
  obtain ⟨receipt₁, p, hlogs₁, hp, hfirst₁, hthen₁, hmeter₁, hs₁, hs₂₁, hempty₁⟩ :=
    h₁.settles_alike (h₁.after hsettles₂ (hp₂ ▸ hsenders))
  obtain ⟨receipt₂, q, hlogs₂, hq, hfirst₂, hthen₂, hmeter₂, hs₂, hs₁₂, hempty₂⟩ :=
    h₂.settles_alike (h₂.after hsettles₁ (hp₁ ▸ hsenders.symm))
  -- The buffer is empty behind the first message, so that the second one's receipt has no logs.
  dsimp only at hthen₁ hthen₂
  rw [hempty₂, ← hlogs₁] at hthen₁
  rw [hempty₁, ← hlogs₂] at hthen₂
  refine ⟨⟨receipt₁, receipt₂, hlogs₁, hlogs₂, hfirst₁, hthen₂, hfirst₂, hthen₁⟩, hmeter₁, hmeter₂, ?_⟩
  exact hs₁.commute (hp ▸ hq ▸ hsenders) hs₁₂ hs₂ hs₂₁

/-- The small engine, where account 3 can pay as well. -/
def shared : Engine :=
  { small with ledger := small.ledger.mint (.ofLow 3) "aledger" 1000000 }

/-- Account 1 pays account 3. -/
def forth : Message := ⟨.ofLow 1, some (.ofLow 3), 7, [], 30000, .legacy 2, 0, []⟩

/-- Account 3 pays account 1. -/
def back : Message := ⟨.ofLow 3, some (.ofLow 1), 5, [], 30000, .legacy 2, 0, []⟩

theorem shared_affords_forth :
    shared.Affords forth smallBlock 100000 smallConfig 2 21000 (.ofLow 3) where
  built := .useLedger _ small_built
  held := by decide +kernel
  collector := by decide +kernel
  pays := ⟨rfl, rfl, fun _ htable => by cases htable; rfl⟩
  admits := ⟨rfl, rfl, by decide +kernel⟩

theorem shared_affords_back :
    shared.Affords back smallBlock 100000 smallConfig 2 21000 (.ofLow 1) where
  built := shared_affords_forth.built
  held := shared_affords_forth.held
  collector := shared_affords_forth.collector
  pays := ⟨rfl, rfl, fun _ htable => by cases htable; rfl⟩
  admits := ⟨rfl, rfl, by decide +kernel⟩

/-- Accounts that pay each other may do so in either order. -/
theorem forth_and_back :
    forth.sender ≠ back.sender ∧
      shared.Affords forth smallBlock 100000 smallConfig 2 21000 (.ofLow 3) ∧
      shared.Affords back smallBlock 100000 smallConfig 2 21000 (.ofLow 1) ∧
      let first := shared.apply Native.interpreter forth smallBlock (.ofLimit 100000) true
      let first' := shared.apply Native.interpreter back smallBlock (.ofLimit 100000) true
      let second := first.2.apply Native.interpreter back smallBlock (.ofLimit 100000) true
      let second' := first'.2.apply Native.interpreter forth smallBlock (.ofLimit 100000) true
      second.2.ledger.books.Agrees second'.2.ledger.books := by
  have hsenders : forth.sender ≠ back.sender := by decide +kernel
  obtain ⟨-, -, -, hagrees⟩ :=
    payments_commute hsenders shared_affords_forth shared_affords_back
  exact ⟨hsenders, shared_affords_forth, shared_affords_back, hagrees⟩

/-- If a log was buffered before, it is in the receipt of the message that is applied first, and not in
the one that this message gets if it is applied second. -/
theorem first_receipt_has_buffered_log :
    let e := { shared with ledger := shared.ledger.addLog ⟨.ofLow 8, [], []⟩ }
    forth.sender ≠ back.sender ∧
      e.Affords forth smallBlock 100000 smallConfig 2 21000 (.ofLow 3) ∧
      e.Affords back smallBlock 100000 smallConfig 2 21000 (.ofLow 1) ∧
      let first := e.apply Native.interpreter forth smallBlock (.ofLimit 100000) true
      let first' := e.apply Native.interpreter back smallBlock (.ofLimit 100000) true
      let second' := first'.2.apply Native.interpreter forth smallBlock (.ofLimit 100000) true
      ∃ receipt receipt', first.1.result = .ok receipt ∧ second'.1.result = .ok receipt' ∧
        receipt.logs = [⟨.ofLow 8, [], []⟩] ∧ receipt'.logs = [] :=
  ⟨by decide +kernel, shared_affords_forth.addLog _, shared_affords_back.addLog _, _, _, rfl, rfl, rfl,
    rfl⟩

end Engine

end EvmBank
