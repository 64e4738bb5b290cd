import EvmBank.Proofs.Engine.GasCharge
import EvmBank.Proofs.Execution.Native

/-!
# What a message costs

Three movements of coins make up a message: its gas is bought, its value is sent, and what was left
of the gas is paid back. Together they come to the fee and the value, whoever the parties are
(`Completed.balance`). A message that fails leaves nothing but the first and the last of them, if its
interpreter keeps the scopes around it (`reverted_pays_only_its_fee`); one without a virtual machine
sends its value once, to its recipient or to the contract that it deploys (`settles_exactly`).
-/

namespace EvmBank

open Transition

/-- Who receives the value of a message: its recipient, or the contract that it deploys. -/
def Message.destination (m : Message) : Address :=
  m.recipient.getD (.ofCreation m.sender m.nonce)

/-- The scope of a message that is kept leaves its books, and no logs. -/
theorem Ledger.commit_dropLogs {l l' : Ledger} {scope : Nat}
    (h : l.dropLogs.commit scope = .ok l') : l'.books = l.books ∧ l'.logs = [] ∧ l'.depth = scope := by
  obtain ⟨s, outer, -, hdepth, rfl⟩ := commit_eq_ok.mp h
  exact ⟨rfl, rfl, hdepth⟩

namespace Transition

variable {ν : Type} {interpreter : Interpreter ν} {h : Host} {c : ExecutionConfig} {m : Message}
  {price : Amount} {available intrinsic leftover : Gas} {result : ExecutionResult} {l l' : Ledger}
  {meter meter' : Meter} {s : Stages}

/-! ## Buying gas and paying it back -/

theorem Bought.moves (hb : Bought c m price l l') :
    l.books.Moves l'.books m.sender c.feeCollector c.evmDenom (price.satMul m.gasLimit.widen) := by
  obtain ⟨paid, hpaid, rfl⟩ := hb.paid
  obtain ⟨hfunds, hbalance, hgrants, hsupplies⟩ := Ledger.moves_of_transfer hpaid
  rw [Ledger.books_setNonce]
  exact ⟨hfunds, hbalance, hgrants, hsupplies⟩

theorem Bought.nonce (hb : Bought c m price l l') (a : Address) :
    l'.books.nonce a = if a = m.sender then m.nonce.satAdd 1 else l.books.nonce a := by
  obtain ⟨paid, hpaid, rfl⟩ := hb.paid
  obtain ⟨hnonces, -, -⟩ := Books.frame_of_transfer (Ledger.books_of_transfer hpaid)
  rw [Ledger.books_setNonce, Books.nonce_setNonce, Books.nonce, hnonces]
  rfl

theorem Bought.codes (hb : Bought c m price l l') : l'.books.codes = l.books.codes := by
  obtain ⟨paid, hpaid, rfl⟩ := hb.paid
  obtain ⟨-, hcodes, -⟩ := Books.frame_of_transfer (Ledger.books_of_transfer hpaid)
  rw [Ledger.books_setNonce]
  exact hcodes

/-- The collector was there before, so that buying gas opens the sender's account at most. -/
theorem Bought.isOpen (hb : Bought c m price l l') (a : Address) :
    l'.books.isOpen a = (decide (a = m.sender) || l.books.isOpen a) := by
  obtain ⟨paid, hpaid, rfl⟩ := hb.paid
  have hsame := Books.isOpen_of_transfer (Ledger.books_of_transfer hpaid) hb.collector a
  rw [Ledger.books_setNonce, ← hsame]
  exact Books.isOpen_openAccount paid.books m.sender a

theorem Repaid.moves (hr : Repaid c m price leftover l l') :
    l.books.Moves l'.books c.feeCollector m.sender c.evmDenom (price.satMul leftover.widen) := by
  rcases hr with ⟨rfl, rfl⟩ | hpaid
  · exact .of_zero (by simp [Quantity.toNat_satMul])
  · exact Ledger.moves_of_transfer hpaid

theorem Repaid.frame (hr : Repaid c m price leftover l l') :
    l'.books.nonces = l.books.nonces ∧ l'.books.codes = l.books.codes ∧
      (l.books.isOpen m.sender = true → ∀ a, l'.books.isOpen a = l.books.isOpen a) := by
  rcases hr with ⟨-, rfl⟩ | hpaid
  · exact ⟨rfl, rfl, fun _ _ => rfl⟩
  · have hbooks := Ledger.books_of_transfer hpaid
    obtain ⟨hnonces, hcodes, -⟩ := Books.frame_of_transfer hbooks
    exact ⟨hnonces, hcodes, Books.isOpen_of_transfer hbooks⟩

/-! ## All movements together -/

section
variable (hc : Completed interpreter h c m price intrinsic l meter s meter')
  (hexact : (price.satMul m.gasLimit.widen).toNat = price.toNat * m.gasLimit.toNat)
include hc hexact

/-- What was bought is the fee, and what is paid back. -/
theorem Completed.purchase_eq :
    (price.satMul m.gasLimit.widen).toNat =
      price.toNat * s.tally.used.toNat + (price.satMul s.tally.remaining.widen).toNat := by
  obtain ⟨hlimit, hused⟩ := hc.used_le
  have hparts : m.gasLimit.toNat = s.tally.used.toNat + s.tally.remaining.toNat := by
    have := Quantity.le_def.mp hused
    rw [GasTally.remaining, Quantity.toNat_satSub, hlimit]
    omega
  have hfits := (price.satMul m.gasLimit.widen).isLt
  rw [hexact] at hfits ⊢
  rw [hparts, Nat.mul_add] at hfits ⊢
  rw [Quantity.toNat_satMul, Quantity.toNat_widen, Nat.min_eq_left (by omega)]

/-- The fee is within the width of amounts. -/
theorem Completed.feePaid_eq :
    (s.receipt price).feePaid.toNat = price.toNat * s.tally.used.toNat := by
  have hpurchase := hc.purchase_eq hexact
  have hfits := (price.satMul m.gasLimit.widen).isLt
  change (price.satMul s.tally.used.widen).toNat = _
  rw [Quantity.toNat_satMul, Quantity.toNat_widen, Nat.min_eq_left (by omega)]

/-- Over all stages the sender pays the fee and what the execution moved, whether it is the one who
receives them or not. -/
theorem Completed.balance {target : Address} {value : Amount}
    (hvalue : s.bought.books.Moves s.executed.books m.sender target c.evmDenom value)
    (a : Address) (d : Denom) :
    ((s.repaid.books.balance a d).toNat : Int) =
      (l.books.balance a d).toNat
        - (if a = m.sender ∧ d = c.evmDenom then
            price.toNat * s.tally.used.toNat + value.toNat else 0)
        + (if a = target ∧ d = c.evmDenom then value.toNat else 0)
        + (if a = c.feeCollector ∧ d = c.evmDenom then
            price.toNat * s.tally.used.toNat else 0) := by
  have hpurchase := hc.purchase_eq hexact
  have hfirst := hc.bought.moves.balance a d
  have hsecond := hvalue.balance a d
  have hthird := hc.repaid.moves.balance a d
  rw [hpurchase] at hfirst
  generalize price.toNat * s.tally.used.toNat = fee at *
  split_ifs at * <;> omega

end

/-! ## Executions that fail -/

/-- Without what was executed, a message counts, and is paid for. -/
theorem Completed.frame_of_undone
    (hc : Completed interpreter h c m price intrinsic l meter s meter')
    (hundone : s.executed.books = s.bought.books) :
    (∀ a, s.repaid.books.isOpen a = (decide (a = m.sender) || l.books.isOpen a)) ∧
      (∀ a, s.repaid.books.nonce a = if a = m.sender then m.nonce.satAdd 1 else l.books.nonce a) ∧
      s.repaid.books.codes = l.books.codes ∧ s.repaid.books.grants = l.books.grants ∧
      s.repaid.books.supplies = l.books.supplies := by
  have hbought := hc.bought
  have hmoves := hbought.moves
  have hback := hc.repaid.moves
  obtain ⟨hnonces, hcodes, hopen⟩ := hc.repaid.frame
  have hsender : s.executed.books.isOpen m.sender = true := by
    rw [hundone, hbought.isOpen]
    simp
  refine ⟨fun a => ?_, fun a => ?_, ?_, ?_, ?_⟩
  · rw [hopen hsender, hundone, hbought.isOpen]
  · rw [Books.nonce, hnonces, hundone]
    exact hbought.nonce a
  · rw [hcodes, hundone, hbought.codes]
  · rw [hback.grants, hundone, hmoves.grants]
  · rw [hback.supplies, hundone, hmoves.supplies]

/-- What an execution that failed has written is gone, in whichever scopes it was written. -/
theorem Ran.books_of_reverted (hr : Ran interpreter h c m available l result l')
    (hv : result.reverted = true)
    (hi : (interpreter c m available).KeepsScopes h l.openScope.depth l.openScope ∨
      (c.accessControl.policy m.isCreation).allows m.sender = false) : l'.books = l.books := by
  obtain ⟨logs, rfl⟩ := hr.of_reverted hv fun hallowed => by
    rcases hi with hi | hdenied
    · exact (Program.keepsScopes_iff.mp hi).1
    · cases hallowed.symm.trans hdenied
  rfl

end Transition

/-! ## Executions without a virtual machine -/

namespace Native

variable {h : Host} {c : ExecutionConfig} {m : Message} {gas : Gas} {target : Address}
  {l l' : Ledger}

theorem Sends.moves (hs : Sends c m target l l') :
    l.books.Moves l'.books m.sender target c.evmDenom m.value := by
  rcases hs with ⟨hzero, rfl⟩ | hsent
  · exact .of_zero (by rw [hzero, Quantity.toNat_zero])
  · exact Ledger.moves_of_transfer hsent

theorem Sends.nonces (hs : Sends c m target l l') : l'.books.nonces = l.books.nonces := by
  rcases hs with ⟨-, rfl⟩ | hsent
  · rfl
  · exact (Books.frame_of_transfer (Ledger.books_of_transfer hsent)).1

/-- Where no token is called, the value is sent, and no nonce is changed but that of a contract that
is deployed. -/
theorem Does.sends_value (hd : Does h c m gas l l')
    (hplain : ∀ target, m.recipient = some target → h.precompiles.lookup target = none) :
    l.books.Moves l'.books m.sender m.destination c.evmDenom m.value ∧
      ∀ a, ¬(m.recipient = none ∧ a = m.destination) → l'.books.nonce a = l.books.nonce a := by
  cases hd with
  | calls hrecipient htoken _ => cases (hplain _ hrecipient).symm.trans htoken
  | @sends target _ hrecipient hs =>
    have hdestination : m.destination = target := by rw [Message.destination, hrecipient]; rfl
    rw [hdestination]
    exact ⟨hs.moves, fun a _ => congrArg (·.getD a 0) hs.nonces⟩
  | deploys hrecipient hs =>
    have hdestination : m.destination = .ofCreation m.sender m.nonce := by
      rw [Message.destination, hrecipient]; rfl
    rw [hdestination, Ledger.books_setCode, Ledger.books_setNonce]
    obtain ⟨hfunds, hbalance, hgrants, hsupplies⟩ := hs.moves
    refine ⟨⟨hfunds, hbalance, hgrants, hsupplies⟩, fun a ha => ?_⟩
    refine (Books.nonce_setNonce _ _ a 1).trans ?_
    rw [if_neg fun he => ha ⟨hrecipient, he⟩]
    exact congrArg (·.getD a 0) hs.nonces

/-- An execution, whether it was denied, failed or ended, sends the value of its message or nothing. -/
theorem sends_value_of_ran {headers : HeaderStore} {b : Block} {result : ExecutionResult}
    (hr : Ran interpreter ⟨headers, b, c.precompiles⟩ c m gas l result l')
    (hplain : ∀ target, m.recipient = some target → c.precompiles.lookup target = none) :
    l.books.Moves l'.books m.sender m.destination c.evmDenom
        (if result.reverted then 0 else m.value) ∧
      ∀ a, ¬(m.recipient = none ∧ result.reverted = false ∧ a = m.destination) →
        l'.books.nonce a = l.books.nonce a := by
  cases hv : result.reverted with
  | true =>
    have hnested := interpreter_wellNested.keepsScopes c m gas headers b l.openScope
    rw [hr.books_of_reverted hv (.inl hnested)]
    exact ⟨.of_zero Quantity.toNat_zero, fun _ _ => rfl⟩
  | false =>
    cases hr with
    | denied _ => cases hv
    | closed _ hrun _ hclosed =>
      obtain ⟨hmoves, hnonce⟩ := (run_does hrun hv).sends_value hplain
      rw [if_neg (by simp [hv])] at hclosed
      rw [Ledger.books_of_commit hclosed]
      exact ⟨hmoves, fun a ha => hnonce a fun hdeployed => ha ⟨hdeployed.1, rfl, hdeployed.2⟩⟩

end Native

namespace Engine

/-! ## Failed messages -/

/-- A message that fails, because its execution fails or its sender may not do what it asks for,
costs its sender the fee and counts as one of its messages. The collector receives the fee, and all
else in the books is as before, whatever the execution wrote and in whichever scopes; the buffered
logs have gone to the receipt. -/
theorem reverted_pays_only_its_fee {ν : Type} {interpreter : Interpreter ν} {e : Engine}
    {m : Message} {b : Block} {meter : Meter} {receipt : Receipt}
    (hi : interpreter.KeepsScopes ∨
      (e.params.accessControl.policy m.isCreation).allows m.sender = false)
    (h : (e.apply interpreter m b meter true).1.result = .ok receipt)
    (hr : receipt.reverted = true) :
    let after := (e.apply interpreter m b meter true).2.ledger
    let fee := receipt.effectivePrice.toNat * receipt.gasUsed.toNat
    (∀ a d, ((after.balance a d).toNat : Int) =
        (e.ledger.balance a d).toNat
          - (if a = m.sender ∧ d = e.params.evmDenom then fee else 0)
          + (if a = e.params.feeCollector ∧ d = e.params.evmDenom then fee else 0)) ∧
      (∀ a, after.accountExists a = (decide (a = m.sender) || e.ledger.accountExists a)) ∧
      (∀ a, after.nonce a = if a = m.sender then m.nonce.satAdd 1 else e.ledger.nonce a) ∧
      after.books.codes = e.ledger.books.codes ∧ after.books.grants = e.ledger.books.grants ∧
      after.books.supplies = e.ledger.books.supplies ∧
      after.depth = e.ledger.depth ∧ after.logs = [] := by
  obtain ⟨c, price, intrinsic, s, hadmits, rfl, hc, hclosed⟩ := apply_completed h
  obtain ⟨-, -, haccess, hdenom, hcollector, -⟩ := hadmits.of_params
  rw [if_pos rfl] at hclosed
  obtain ⟨hbooks, hlogs, hdepth⟩ := Ledger.commit_dropLogs hclosed
  have hundone : s.executed.books = s.bought.books :=
    hc.ran.books_of_reverted hr (hi.imp (· c m s.available e.headers b s.bought.openScope)
      (haccess ▸ ·))
  have hnothing : s.bought.books.Moves s.executed.books m.sender m.sender c.evmDenom 0 :=
    hundone ▸ .of_zero Quantity.toNat_zero
  obtain ⟨hopen, hnonce, hframe⟩ := hc.frame_of_undone hundone
  rw [← hbooks] at hopen hnonce hframe
  refine ⟨fun a d => ?_, hopen, hnonce, hframe.1, hframe.2.1, hframe.2.2, hdepth, hlogs⟩
  have hbalance := hc.balance hadmits.purchase_eq hnothing a d
  rw [hdenom, hcollector, Quantity.toNat_zero] at hbalance
  rw [Ledger.balance, hbooks, hbalance]
  simp [Stages.receipt, Ledger.balance, Ledger.openScope]

/-- Sends coins and stores code in a scope of its own that it commits, and then fails. -/
def halting : Interpreter Unit := fun c m _ => do
  let scope ← Program.ledger .openScope
  let _ ← Program.ledger (.transfer m.sender (.ofLow 7) c.evmDenom 5)
  Program.ledger (.setCode (.ofLow 7) [1])
  let _ ← Program.ledger (.commit scope)
  return (.failure 100 "halted", ())

theorem halting_keepsScopes : halting.KeepsScopes := by
  intro c m gas headers b l
  let host : Host := ⟨headers, b, c.precompiles⟩
  let send : HostCall := .ledger (.transfer m.sender (.ofLow 7) c.evmDenom 5)
  let store : HostCall := .ledger (.setCode (.ofLow 7) [1])
  have hsent : (host.answer l.openScope send).2.depth = l.depth + 1 :=
    (show send.IsLevel from trivial).depth_eq host l.openScope
  have hstored : (host.answer (host.answer l.openScope send).2 store).2.depth = l.depth + 1 :=
    ((show store.IsLevel from trivial).depth_eq host _).trans hsent
  have hclosed := Ledger.depth_commit hstored
  exact ⟨Nat.le_succ _, hsent ▸ Nat.le_succ _, hstored ▸ Nat.le_succ _, Nat.le_of_eq hclosed.symm,
    hclosed⟩

/-- A message whose execution is to fail. -/
def halted : Message := ⟨.ofLow 1, some (.ofLow 5), 5, [], 30000, .legacy 2, 0, []⟩

/-- Neither the coins nor the code arrive, and the collector receives the fee. -/
theorem halted_pays_only_its_fee :
    halting.KeepsScopes ∧ ∃ receipt,
      (small.apply halting halted smallBlock (.ofLimit 100000) true).1.result = .ok receipt ∧
        receipt.reverted = true ∧ receipt.gasUsed = 21100 ∧
        let after := (small.apply halting halted smallBlock (.ofLimit 100000) true).2.ledger
        after.accountExists (.ofLow 7) = false ∧ (after.balance (.ofLow 2) "aledger").toNat = 42200 ∧
          after.books.codes = small.ledger.books.codes := by
  obtain ⟨receipt, hok, hreverted, hgas, hfee⟩ : ∃ receipt,
      (small.apply halting halted smallBlock (.ofLimit 100000) true).1.result = .ok receipt ∧
        receipt.reverted = true ∧ receipt.gasUsed = 21100 ∧
        receipt.effectivePrice.toNat * receipt.gasUsed.toNat = 42200 :=
    ⟨_, rfl, rfl, by decide +kernel, by decide +kernel⟩
  obtain ⟨hbalance, hopen, -, hcodes, -⟩ :=
    reverted_pays_only_its_fee (.inl halting_keepsScopes) hok hreverted
  have hnone : small.ledger.balance (.ofLow 2) "aledger" = 0 := by decide +kernel
  have hpaid := hbalance (.ofLow 2) "aledger"
  rw [hfee, hnone] at hpaid
  refine ⟨halting_keepsScopes, receipt, hok, hreverted, hgas, (hopen _).trans (by decide +kernel),
    Int.ofNat_inj.mp (hpaid.trans (by decide +kernel)), hcodes⟩

/-! ## Messages without a virtual machine -/

/-- A message that calls no token and gets a receipt moves its value, unless it failed, and pays
exactly its fee, whichever of the sender, the destination and the collector are one account. Other
denominations, supplies and grants stay as they are, and so do the nonces of all accounts but the
sender and a contract that was deployed. -/
theorem settles_exactly {e : Engine} {m : Message} {b : Block} {meter : Meter} {receipt : Receipt}
    (hplain : ∀ table target, (e.tableFor b.height).1 = .ok table → m.recipient = some target →
      table.lookup target = none)
    (h : (e.apply Native.interpreter m b meter true).1.result = .ok receipt) :
    let after := (e.apply Native.interpreter m b meter true).2.ledger
    let fee := receipt.effectivePrice.toNat * receipt.gasUsed.toNat
    let value := if receipt.reverted then 0 else m.value.toNat
    receipt.effectivePrice = m.fee.effectivePrice b.baseFee ∧ receipt.feePaid.toNat = fee ∧
      (∀ a, ((after.balance a e.params.evmDenom).toNat : Int) =
        (e.ledger.balance a e.params.evmDenom).toNat
          - (if a = m.sender then fee + value else 0)
          + (if a = m.destination then value else 0)
          + (if a = e.params.feeCollector then fee else 0)) ∧
      (∀ a d, d ≠ e.params.evmDenom → after.balance a d = e.ledger.balance a d) ∧
      after.books.supplies = e.ledger.books.supplies ∧
      after.books.grants = e.ledger.books.grants ∧
      ∀ a, a ≠ m.sender → ¬(m.isCreation ∧ receipt.reverted = false ∧ a = m.destination) →
        after.nonce a = e.ledger.nonce a := by
  obtain ⟨c, price, intrinsic, s, hadmits, rfl, hc, hclosed⟩ := apply_completed h
  obtain ⟨-, hbase, -, hdenom, hcollector, -⟩ := hadmits.of_params
  rw [if_pos rfl] at hclosed
  obtain ⟨hbooks, -, -⟩ := Ledger.commit_dropLogs hclosed
  obtain ⟨hvalue, hkept⟩ :=
    Native.sends_value_of_ran hc.ran fun target => hplain c.precompiles target hadmits.table
  have hsent : (if s.result.reverted then 0 else m.value).toNat =
      if s.result.reverted then 0 else m.value.toNat := by
    split
    · exact Quantity.toNat_zero
    · rfl
  have hbalance := hc.balance hadmits.purchase_eq hvalue
  rw [hdenom, hcollector, hsent] at hbalance
  refine ⟨hbase ▸ hadmits.passes.effective, hc.feePaid_eq hadmits.purchase_eq, fun a => ?_,
    fun a d hd => ?_, ?_, ?_, fun a hsender hdeployed => ?_⟩
  · rw [Ledger.balance, hbooks, hbalance]
    simp only [and_true]
    rfl
  · have hsame := hbalance a d
    simp only [hd, and_false, if_false] at hsame
    rw [Ledger.balance, hbooks]
    exact Quantity.toNat_inj.mp (Int.ofNat_inj.mp hsame)
  · rw [hbooks, hc.repaid.moves.supplies, hvalue.supplies]
    exact hc.bought.moves.supplies
  · rw [hbooks, hc.repaid.moves.grants, hvalue.grants]
    exact hc.bought.moves.grants
  · obtain ⟨hnonces, -, -⟩ := hc.repaid.frame
    rw [Ledger.nonce, hbooks, Books.nonce, hnonces]
    refine (hkept a fun hcreated => hdeployed ⟨?_, hcreated.2⟩).trans ?_
    · rw [Message.isCreation, hcreated.1]
      rfl
    · rw [hc.bought.nonce, if_neg hsender]
      rfl

/-- Sends coins to the account that gas is bought from. -/
def toCollector : Message := ⟨.ofLow 1, some (.ofLow 2), 5, [], 30000, .legacy 2, 0, []⟩

/-- The collector receives the value of the message with its fee. -/
theorem collector_receives_value :
    (∀ table target, (small.tableFor smallBlock.height).1 = .ok table →
      toCollector.recipient = some target → table.lookup target = none) ∧
    ∃ receipt,
      (small.apply Native.interpreter toCollector smallBlock (.ofLimit 100000) true).1.result =
          .ok receipt ∧
        receipt.feePaid.toNat = 42000 ∧
        let after :=
          (small.apply Native.interpreter toCollector smallBlock (.ofLimit 100000) true).2.ledger
        (after.balance (.ofLow 2) "aledger").toNat = 42005 ∧
          after.books.grants = small.ledger.books.grants := by
  have hplain : ∀ table target, (small.tableFor smallBlock.height).1 = .ok table →
      toCollector.recipient = some target → table.lookup target = none := by
    rintro table target htable ⟨⟩
    cases htable
    rfl
  obtain ⟨receipt, hok, hfee⟩ : ∃ receipt,
      (small.apply Native.interpreter toCollector smallBlock (.ofLimit 100000) true).1.result =
          .ok receipt ∧ receipt.effectivePrice.toNat * receipt.gasUsed.toNat = 42000 ∧
            receipt.reverted = false := ⟨_, rfl, by decide +kernel, rfl⟩
  obtain ⟨-, hpaid, hbalance, -, -, hgrants, -⟩ := settles_exactly hplain hok
  refine ⟨hplain, receipt, hok, hpaid.trans hfee.1, ?_, hgrants⟩
  have hnone : small.ledger.balance (.ofLow 2) small.params.evmDenom = 0 := by decide +kernel
  have h := hbalance (.ofLow 2)
  rw [hfee.1, hfee.2, hnone] at h
  exact Int.ofNat_inj.mp (h.trans (by decide))

end Engine

end EvmBank
