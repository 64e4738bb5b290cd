import EvmBank.Proofs.Engine.Metering
import EvmBank.Proofs.Engine.ReceiptLogs

/-!
# Payments

A message to an account that has no code and is no token is a payment. Its execution moves the value,
or nothing if its sender may call nobody (`exists_ran_of_payment`), so that what it comes to does not
depend on the ledger. The three movements of coins leave nothing but the fee and the value changed, and
who has sent a message (`Payment.Settles`). The collector holds what it has to pay back even where it is
the sender itself, so that a payment that is admitted always gets a receipt (`Admits.settles`).
-/

namespace EvmBank

-- Powers are those of the core library, also beside more general ones.
attribute [local instance (high)] instPowNat

/-! ## Coins that are received -/

/-- Coins went to an account, which was opened for them if there were any. -/
structure Books.Receives (b b' : Books) (source target : Address) (d : Denom) (amount : Amount) :
    Prop where
  moves : b.Moves b' source target d amount
  held : ∀ d', b'.held d' = b.held d'
  isOpen : ∀ a, b'.isOpen a = (decide (amount ≠ 0 ∧ a = target) || b.isOpen a)
  nonces : b'.nonces = b.nonces
  codes : b'.codes = b.codes

namespace Books

variable {b b' : Books} {source target : Address} {d : Denom} {amount : Amount}

theorem Receives.nothing (b : Books) (source target : Address) (d : Denom) :
    b.Receives b source target d 0 :=
  ⟨.of_zero Quantity.toNat_zero, fun _ => rfl, fun a => by simp, rfl, rfl⟩

theorem Receives.of_transfer (ht : b.transfer source target d amount = .ok b')
    (hs : b.isOpen source = true) (hne : amount ≠ 0) : b.Receives b' source target d amount := by
  obtain ⟨hnonces, hcodes, -⟩ := frame_of_transfer ht
  refine ⟨moves_of_transfer ht, held_of_transfer ht, fun a => ?_, hnonces, hcodes⟩
  rw [isOpen_of_transfer_of_isOpen ht hs]
  simp [hne]

end Books

/-! ## The execution of a payment -/

namespace Native

open Host

variable {h : Host} {c : ExecutionConfig} {m : Message} {gas : Gas} {target : Address}
  {l l' : Ledger}

/-- The value of a message, if there is any, is moved to an account. -/
def Delivers (c : ExecutionConfig) (m : Message) (target : Address) (l l' : Ledger) : Prop :=
  if m.value.isZero then l' = l else l.transfer m.sender target c.evmDenom m.value = .ok l'

theorem exists_delivers (hheld : l.books.held c.evmDenom < 2 ^ (256 : Nat))
    (hvalue : m.value ≤ l.balance m.sender c.evmDenom) (target : Address) :
    ∃ l', Delivers c m target l l' := by
  unfold Delivers
  split
  · exact ⟨l, rfl⟩
  · exact Ledger.exists_transfer hheld hvalue target

theorem Delivers.receives (hd : Delivers c m target l l')
    (hsender : l.accountExists m.sender = true) :
    l.books.Receives l'.books m.sender target c.evmDenom m.value := by
  unfold Delivers at hd
  split at hd
  · rename_i hzero
    rw [hd, Quantity.isZero_iff.mp hzero]
    exact .nothing _ _ _ _
  · rename_i hne
    exact .of_transfer (Ledger.books_of_transfer hd) hsender fun hzero =>
      hne (Quantity.isZero_iff.mpr hzero)

theorem Delivers.grows (hd : Delivers c m target l l') : l.Grows l' := by
  unfold Delivers at hd
  split at hd
  · exact hd ▸ .refl
  · exact .transfer hd

theorem Delivers.logs (hd : Delivers c m target l l') : l'.logs = l.logs := by
  unfold Delivers at hd
  split at hd
  · rw [hd]
  · exact Ledger.logs_transfer hd

theorem moveValue_delivers (hd : Delivers c m target l l') :
    h.Yields (moveValue c m.sender target m.value) (fun moved ran => moved = true ∧ ran = l') l := by
  unfold Delivers at hd
  unfold moveValue
  split at hd
  · rename_i hzero
    rw [if_pos hzero]
    exact ⟨rfl, hd.symm⟩
  · rename_i hne
    rw [if_neg hne, yields_ledger]
    simp only [Ledger.answer, Ledger.attempt, hd]
    exact ⟨rfl, rfl⟩

/-- The execution of a message to an account without code, which is no token, delivers the value. -/
theorem run_delivers (hrecipient : m.recipient = some target)
    (hlookup : h.precompiles.lookup target = none) (hcode : l.code target = [])
    (hd : Delivers c m target l l') :
    h.run (interpreter c m gas) l = ((.success 0 [], ()), l') := by
  have hcall : h.Yields (call c m target gas) (fun result ran => result = .success 0 [] ∧ ran = l')
      l := by
    unfold call
    rw [yields_perform]
    simp only [Host.answer]
    rcases PrecompileTable.dispatch_cases h.precompiles target
      ⟨m.data, m.sender, m.value, gas, false, h.block.time⟩ l with ⟨-, hnone⟩ | ⟨t, htoken, -⟩
    · rw [hnone, yields_ledger]
      have hempty : (!List.isEmpty (l.code target)) = false := by rw [hcode]; rfl
      simp only [Ledger.answer, hempty, Bool.false_eq_true, if_false]
      refine yields_bind.mpr ((moveValue_delivers hd).mono ?_)
      rintro _ _ ⟨rfl, rfl⟩
      exact ⟨rfl, rfl⟩
    · cases hlookup.symm.trans htoken
  have hyields : h.Yields (interpreter c m gas)
      (fun returned ran => returned = (.success 0 [], ()) ∧ ran = l') l := by
    refine yields_bind.mpr ?_
    unfold execute
    rw [hrecipient]
    refine hcall.mono ?_
    rintro _ _ ⟨rfl, rfl⟩
    exact ⟨rfl, rfl⟩
  exact Prod.ext hyields.1 hyields.2

end Native

namespace Transition

variable {c : ExecutionConfig} {m : Message} {price : Amount} {available intrinsic leftover : Gas}
  {target : Address} {l l' : Ledger} {meter meter' : Meter} {s : Stages}

/-- What the execution of a payment comes to, whatever the ledger is. -/
def paymentResult (c : ExecutionConfig) (m : Message) : ExecutionResult :=
  if (c.accessControl.policy m.isCreation).allows m.sender then .success 0 []
  else .failure 0 permissionDenied

/-- What a payment moves beside its fee. -/
def paymentValue (c : ExecutionConfig) (m : Message) : Amount :=
  if (c.accessControl.policy m.isCreation).allows m.sender then m.value else 0

theorem exists_ran_of_payment (headers : HeaderStore) (b : Block) (available : Gas)
    (hrecipient : m.recipient = some target) (hlookup : c.precompiles.lookup target = none)
    (hcode : l.code target = []) (hheld : l.books.held c.evmDenom < 2 ^ (256 : Nat))
    (hvalue : m.value ≤ l.balance m.sender c.evmDenom)
    (hsender : l.accountExists m.sender = true) :
    ∃ l', Ran Native.interpreter ⟨headers, b, c.precompiles⟩ c m available l (paymentResult c m) l' ∧
      l.books.Receives l'.books m.sender target c.evmDenom (paymentValue c m) ∧ l'.logs = l.logs := by
  unfold paymentResult paymentValue
  split
  · rename_i hallowed
    obtain ⟨delivered, hd⟩ := Native.exists_delivers (l := l.openScope) hheld hvalue target
    obtain ⟨l', hclosed⟩ := Ledger.exists_close (hd.grows.depth_eq : _ = l.depth + 1) true
    obtain ⟨_, _, -, -, rfl⟩ := Ledger.commit_eq_ok.mp hclosed
    refine ⟨_, .closed hallowed (Native.run_delivers hrecipient hlookup hcode hd) (Nat.zero_le _)
      hclosed, hd.receives hsender, hd.logs⟩
  · rename_i hdenied
    exact ⟨l, .denied (by simpa using hdenied), .nothing _ _ _ _, rfl⟩

theorem paymentValue_le (c : ExecutionConfig) (m : Message) : paymentValue c m ≤ m.value := by
  unfold paymentValue
  split
  · exact Nat.le_refl _
  · rw [Quantity.le_def, Quantity.toNat_zero]
    exact Nat.zero_le _

/-- A payment leaves the collector what it needs to pay back, even if it is the one who sends. -/
theorem Paid.of_receives {bought executed : Ledger} (hb : Bought c m price l bought)
    (hheld : l.books.held c.evmDenom < 2 ^ (256 : Nat))
    (hfunds : (price.satMul m.gasLimit.widen).toNat + m.value.toNat ≤
      (l.balance m.sender c.evmDenom).toNat)
    (hr : bought.books.Receives executed.books m.sender target c.evmDenom (paymentValue c m)) :
    Paid c m price executed := by
  refine ⟨?_, Quantity.le_def.mpr ?_⟩
  · rwa [hr.held, hb.held]
  · have hvalue := Quantity.le_def.mp (paymentValue_le c m)
    have hfirst := hb.moves.balance c.feeCollector c.evmDenom
    have hsecond := hr.moves.balance c.feeCollector c.evmDenom
    rw [Ledger.balance] at hfunds ⊢
    by_cases hself : c.feeCollector = m.sender
    · rw [hself] at hfirst hsecond ⊢
      rw [if_pos ⟨rfl, rfl⟩] at hfirst hsecond
      omega
    · rw [if_neg fun he => hself he.1] at hfirst hsecond
      rw [if_pos ⟨rfl, rfl⟩] at hfirst
      omega

/-! ## What a payment settles -/

theorem Repaid.held (hr : Repaid c m price leftover l l') (d : Denom) :
    l'.books.held d = l.books.held d := by
  rcases hr with ⟨-, rfl⟩ | hpaid
  · rfl
  · exact Books.held_of_transfer (Ledger.books_of_transfer hpaid) d

end Transition

/-- The parties of a payment, and what it moves. -/
structure Payment where
  sender : Address
  recipient : Address
  /-- Who receives the fee. -/
  collector : Address
  denom : Denom
  /-- The nonce of the sender afterwards. -/
  nonce : Nonce
  value : Amount
  fee : Nat

/-- What a payment changes, whichever of its parties are one account. -/
structure Payment.Settles (p : Payment) (b b' : Books) : Prop where
  balance : ∀ a d, ((b'.balance a d).toNat : Int) =
    (b.balance a d).toNat
      - (if a = p.sender ∧ d = p.denom then p.fee + p.value.toNat else 0)
      + (if a = p.recipient ∧ d = p.denom then p.value.toNat else 0)
      + (if a = p.collector ∧ d = p.denom then p.fee else 0)
  held : ∀ d, b'.held d = b.held d
  isOpen : ∀ a, b'.isOpen a =
    (decide (p.value ≠ 0 ∧ a = p.recipient) || (decide (a = p.sender) || b.isOpen a))
  nonce : ∀ a, b'.nonce a = if a = p.sender then p.nonce else b.nonce a
  codes : b'.codes = b.codes
  grants : b'.grants = b.grants
  supplies : b'.supplies = b.supplies

namespace Transition

variable {ν : Type} {interpreter : Interpreter ν} {h : Host} {c : ExecutionConfig} {m : Message}
  {price : Amount} {intrinsic : Gas} {target : Address} {l : Ledger} {meter meter' : Meter}
  {s : Stages}

/-- The payment that a message makes. -/
def payment (c : ExecutionConfig) (m : Message) (target : Address) (price : Amount) (used : Gas) :
    Payment where
  sender := m.sender
  recipient := target
  collector := c.feeCollector
  denom := c.evmDenom
  nonce := m.nonce.satAdd 1
  value := paymentValue c m
  fee := price.toNat * used.toNat

theorem Completed.settles (hc : Completed interpreter h c m price intrinsic l meter s meter')
    (hexact : (price.satMul m.gasLimit.widen).toNat = price.toNat * m.gasLimit.toNat)
    (hr : s.bought.books.Receives s.executed.books m.sender target c.evmDenom (paymentValue c m)) :
    (payment c m target price s.tally.used).Settles l.books s.repaid.books := by
  obtain ⟨hnonces, hcodes, hopen⟩ := hc.repaid.frame
  have hsender : s.executed.books.isOpen m.sender = true := by
    rw [hr.isOpen, hc.bought.isOpen]
    simp
  refine ⟨hc.balance hexact hr.moves, fun d => ?_, fun a => ?_, fun a => ?_, ?_, ?_, ?_⟩
  · rw [hc.repaid.held, hr.held, hc.bought.held]
  · rw [hopen hsender, hr.isOpen, hc.bought.isOpen]
    rfl
  · rw [Books.nonce, hnonces, hr.nonces]
    exact hc.bought.nonce a
  · rw [hcodes, hr.codes, hc.bought.codes]
  · rw [hc.repaid.moves.grants, hr.moves.grants, hc.bought.moves.grants]
  · rw [hc.repaid.moves.supplies, hr.moves.supplies, hc.bought.moves.supplies]

end Transition

/-! ## Payments that are admitted -/

namespace Engine

open Transition

/-- A message to an account that has no code and is no token in its block. -/
structure Pays (e : Engine) (m : Message) (b : Block) (target : Address) : Prop where
  recipient : m.recipient = some target
  code : e.ledger.code target = []
  token : ∀ table, (e.tableFor b.height).1 = .ok table → table.lookup target = none

variable {ν : Type} {e : Engine} {interpreter : Interpreter ν} {m : Message} {b : Block}
  {meter : Meter} {keep : Bool} {c : ExecutionConfig} {price : Amount} {intrinsic : Gas}
  {target : Address} {executed : Ledger} {tally : GasTally}

/-- Where the meter shows nothing and the collector can pay back, nothing stops a message any more. -/
theorem Measures.exists_receipt (hm : Measures interpreter e m b meter c price executed tally)
    (hp : Paid c m price executed) (hmeter : meter.consumed = 0) (keep : Bool) :
    ∃ receipt, (e.apply interpreter m b meter keep).1.result = .ok receipt := by
  cases hresult : (e.apply interpreter m b meter keep).1.result with
  | ok receipt => exact ⟨receipt, rfl⟩
  | error stop =>
    rcases (apply_halts hresult).of_measures hm with ⟨hback, -⟩ | ⟨-, -, error, -, hunpaid⟩
    · rw [hmeter] at hback
      exact absurd hback (Nat.not_lt_zero _)
    · exact absurd hunpaid (hp.not_unpaid hm.remaining_le)

/-- A payment that is admitted gets a receipt. What it reports, what it is charged and what it settles
depend on the ledger only for the logs. -/
theorem Admits.settles (ha : e.Admits m b meter c price intrinsic) (he : e.Built)
    (hheld : e.ledger.books.held e.params.evmDenom < 2 ^ (256 : Nat))
    (hcollector : e.ledger.accountExists e.params.feeCollector = true)
    (hpays : e.Pays m b target) (hmeter : meter.consumed = 0) :
    let applied := e.apply Native.interpreter m b meter true
    ∃ s : Stages, s.result = paymentResult c m ∧ Charged c m intrinsic s.result s.tally ∧
      s.repaid.logs = e.ledger.logs ∧ applied.1.result = .ok (s.receipt price) ∧
      applied.1.meter = { meter with consumed := s.tally.used } ∧
      (payment c m target price s.tally.used).Settles e.ledger.books applied.2.ledger.books ∧
      applied.2.ledger.logs = [] := by
  obtain ⟨-, -, -, hdenom, hfees, hmultiplier⟩ := ha.of_params
  rw [← hdenom] at hheld
  rw [← hfees] at hcollector
  have hfunds := ha.funds_le
  have hpurchase : price.satMul m.gasLimit.widen ≤ e.ledger.openScope.balance m.sender c.evmDenom :=
    Nat.le_trans (Nat.le_add_right _ _) hfunds
  obtain ⟨paid, hpaid⟩ :=
    Ledger.exists_transfer (l := e.ledger.openScope) hheld hpurchase c.feeCollector
  have hb : Bought c m price e.ledger.openScope _ := ⟨hcollector, paid, hpaid, rfl⟩
  generalize paid.setNonce m.sender (m.nonce.satAdd 1) = bought at hb
  cases havailable : m.gasLimit.sub? intrinsic with
  | none =>
    exact absurd ha.passes.affordable (Nat.not_le_of_lt (Quantity.sub?_eq_none.mp havailable))
  | some available =>
    have hcode : bought.code target = [] := by
      rw [Ledger.code, Books.code, hb.codes]
      exact hpays.code
    have hsender : bought.accountExists m.sender = true := by
      rw [Ledger.accountExists, hb.isOpen]
      simp
    obtain ⟨executed, hran, hreceives, hlogs⟩ :=
      exists_ran_of_payment e.headers b available hpays.recipient (hpays.token _ ha.table) hcode
        ((hb.held _).symm ▸ hheld) (hb.value_le hfunds) hsender
    have hshare : c.minGasMultiplier.IsShare :=
      hmultiplier ▸ Params.isShare_of_validate he.params_valid
    obtain ⟨tally, hcharged⟩ := exists_charged hshare (hran.fits havailable)
    have hmeasures : Measures Native.interpreter e m b meter c price executed tally :=
      ⟨intrinsic, ha, .intro hb havailable hran hcharged⟩
    have hpaid := Paid.of_receives hb hheld hfunds hreceives
    obtain ⟨receipt, hok⟩ := hmeasures.exists_receipt hpaid hmeter true
    -- The stages behind the receipt are those found here, since each has one outcome.
    obtain ⟨c', price', intrinsic', s, ha', rfl, hc, hclosed⟩ := apply_completed hok
    obtain ⟨rfl, rfl, rfl⟩ := ha.unique ha'
    obtain rfl := hb.unique hc.bought
    cases havailable.symm.trans hc.available
    obtain ⟨hresult, rfl⟩ := hran.unique hc.ran
    obtain ⟨hbooks, hempty, -⟩ := Ledger.commit_dropLogs hclosed
    refine ⟨s, hresult.symm, hc.charged, ?_, hok, (Meter.reconcile_eq_ok.mp hc.metered).2.2, ?_, hempty⟩
    · rw [hc.repaid.logs, hlogs, hc.bought.logs]
      rfl
    · rw [hbooks]
      exact hc.settles ha.purchase_eq hreceives

end Engine

end EvmBank
