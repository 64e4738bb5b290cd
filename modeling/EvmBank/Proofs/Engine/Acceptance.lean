import EvmBank.Proofs.Engine.Checks
import EvmBank.Proofs.Engine.GasCharge
import EvmBank.Proofs.Engine.Settlement
import EvmBank.Proofs.Ledger.Conservation
import EvmBank.Proofs.Token.Custody

/-!
# Messages that are accepted

A message without a virtual machine that passes the checks gets a receipt
(`accepted_messages_settle`): no stage stops. The checks leave the sender with enough for the purchase
and the value (`Ready`); what the collector was paid stays with it until it is paid back, since nobody
else can spend it (`Paid`); all coins can be counted together, so that nothing overflows on the way;
and no execution reports more gas than it was given.
-/

namespace EvmBank

-- Powers are those of the core library, also beside more general ones.
attribute [local instance (high)] instPowNat

/-! ## Coins that are there -/

namespace Token

variable {t : Token} {caller : Address} {time : Seconds} {call : PrecompileCall} {l l' : Ledger}
  {r : TokenRequest} {out : Bytes} {served : PrecompileOutput}

/-- A request moves coins between two accounts, or leaves them all where they are. -/
theorem Performs.balances_eq (hp : t.Performs caller time l r out l') :
    l'.books.balances = l.books.balances ∨
      ∃ source target amount moved, l.transfer source target t.denom amount = .ok moved ∧
        l'.books.balances = moved.books.balances := by
  cases hp with
  | transfer hm | transferOwn hm => exact .inr ⟨_, _, _, _, hm, rfl⟩
  | transferGranted _ _ _ _ hm => exact .inr ⟨_, _, _, _, hm, Ledger.balances_keepGrant ..⟩
  | approveLive | increase | decrease => exact .inl (Ledger.balances_keepGrant ..)
  | @approveNothing spender _ _ _ =>
    have hsame := congrArg Books.balances (Ledger.books_revokeGrant l caller spender)
    exact .inl hsame
  | approveNew | allowance | balanceOf | totalSupply => exact .inl rfl

theorem Served.held (hs : t.Served call l r served l') (d : Denom) :
    l'.books.held d = l.books.held d := by
  obtain ⟨ran, hperforms, hcommit⟩ := hs.performs
  rw [Ledger.books_of_commit hcommit]
  rcases hperforms.balances_eq with hsame | ⟨source, target, amount, moved, hm, hsame⟩
  · exact Books.held_of_balances hsame d
  · rw [Books.held_of_balances hsame]
    exact Books.held_of_transfer (Ledger.books_of_transfer hm) d

end Token

namespace Native

variable {h : Host} {c : ExecutionConfig} {m : Message} {gas : Gas} {target a : Address} {d : Denom}
  {l l' : Ledger} {result : ExecutionResult}

theorem Sends.held (hs : Sends c m target l l') (d : Denom) :
    l'.books.held d = l.books.held d := by
  rcases hs with ⟨-, rfl⟩ | hsent
  · rfl
  · exact Books.held_of_transfer (Ledger.books_of_transfer hsent) d

/-- An execution makes no coins, and none get lost. -/
theorem Does.held (hd : Does h c m gas l l') (d : Denom) : l'.books.held d = l.books.held d := by
  cases hd with
  | calls _ _ hs => exact hs.held d
  | sends _ hs => exact hs.held d
  | deploys _ hs =>
    rw [Ledger.books_setCode, Ledger.books_setNonce]
    exact hs.held d

theorem Sends.balance_le (hs : Sends c m target l l') (ha : a ≠ m.sender) :
    (l.balance a d).toNat ≤ (l'.balance a d).toNat := by
  have hmoved := hs.moves.balance a d
  rw [if_neg fun he => ha he.1] at hmoved
  exact Nat.le.intro hmoved.symm

/-- An account that has granted the sender nothing loses nothing. -/
theorem Does.balance_le (hd : Does h c m gas l l') (ha : a ≠ m.sender)
    (hungranted : ∀ g, l.grant? a m.sender = some g → g.limitFor d = 0) :
    (l.balance a d).toNat ≤ (l'.balance a d).toNat := by
  cases hd with
  | calls _ _ hs =>
    refine Nat.le_of_not_lt fun hlow => ?_
    obtain ⟨rfl, _, amount, g, -, hg, -, -, hamount, hlimit⟩ := hs.spends ha hlow
    rw [hungranted g hg] at hlimit
    exact absurd hlimit (Nat.not_le_of_lt hamount)
  | sends _ hs => exact hs.balance_le ha
  | deploys _ hs =>
    rw [Ledger.balance, Ledger.balance, Ledger.books_setCode, Ledger.books_setNonce]
    exact hs.balance_le ha

/-! ## Failures that do not occur -/

/-- A text that begins otherwise is another text. -/
theorem append_ne {p t : String} (h : ¬p.toList <+: t.toList) (s : String) : p ++ s ≠ t := by
  intro he
  rw [← he, String.toList_append] at h
  exact h (List.prefix_append _ _)

/-- No precompiled contract fails with the reason of a value that could not be paid. -/
theorem message_ne_insufficientBalance (cause : PrecompileError) :
    cause.message ≠ Failure.insufficientBalance.message := by
  cases cause with
  | insufficientFunds required available =>
    show s!"insufficient funds: required {required}, available {available}" ≠ _
    rw [String.append_assoc, String.append_assoc]
    exact append_ne (by decide +kernel) _
  | unauthorized cause => exact append_ne (p := "unauthorized: ") (by decide +kernel) _
  | invalidInput cause => exact append_ne (p := "invalid input: ") (by decide +kernel) _
  | unknownMethod selector => exact append_ne (p := "unknown method: ") (by decide +kernel) _
  | ledger cause => exact append_ne (p := "ledger: ") (by decide +kernel) _
  | outOfGas | nonPayable | writeProtection | allowanceOverflow => decide +kernel

theorem Failure.message_ne {reason : Failure} (h : reason ≠ .insufficientBalance) :
    reason.message ≠ Failure.insufficientBalance.message := by
  cases reason with
  | insufficientBalance => exact absurd rfl h
  | codeExecution | addressCollision | outOfGas | codeTooLarge => decide +kernel

theorem empty_ne_insufficientBalance : "" ≠ Failure.insufficientBalance.message := by
  decide +kernel

/-- An execution fails for want of the value only where it cannot be paid. -/
theorem Comes.vmError_ne (hc : Comes h c m gas l result l')
    (hpays : ∀ target, ∃ l', l.transfer m.sender target c.evmDenom m.value = .ok l') :
    result.vmError.getD "" ≠ Failure.insufficientBalance.message := by
  cases hc with
  | served | sent | deployed => exact empty_ne_insufficientBalance
  | refused =>
    rw [vmError_ofPrecompile]
    exact message_ne_insufficientBalance _
  | @unpaid target error herror =>
    obtain ⟨l', hpaid⟩ := hpays target
    cases herror.symm.trans hpaid
  | unexecutable =>
    exact Failure.message_ne (show Failure.codeExecution ≠ .insufficientBalance from nofun)
  | collided =>
    exact Failure.message_ne (show Failure.addressCollision ≠ .insufficientBalance from nofun)
  | @undeployed _ reason _ _ hreason =>
    have hother : reason ≠ .insufficientBalance := by
      rcases hreason with rfl | rfl
      · exact nofun
      · exact nofun
    exact Failure.message_ne hother

end Native

/-! ## One stage after the other -/

namespace Transition

variable {c : ExecutionConfig} {m : Message} {price : Amount} {available intrinsic : Gas}
  {result : ExecutionResult} {l l' : Ledger}

/-- What a message needs of the ledger to begin with. -/
structure Ready (c : ExecutionConfig) (m : Message) (price : Amount) (l : Ledger) : Prop where
  held : l.books.held c.evmDenom < 2 ^ (256 : Nat)
  collector : l.accountExists c.feeCollector = true
  distinct : m.sender ≠ c.feeCollector
  /-- The sender has no share in the coins of the collector. -/
  ungranted : ∀ g, l.grant? c.feeCollector m.sender = some g → g.limitFor c.evmDenom = 0
  funds : (price.satMul m.gasLimit.widen).toNat + m.value.toNat ≤
    (l.balance m.sender c.evmDenom).toNat

/-- What a message needs of the ledger once its gas is bought. -/
structure Paid (c : ExecutionConfig) (m : Message) (price : Amount) (l : Ledger) : Prop where
  held : l.books.held c.evmDenom < 2 ^ (256 : Nat)
  purchase : price.satMul m.gasLimit.widen ≤ l.balance c.feeCollector c.evmDenom

theorem Bought.held (hb : Bought c m price l l') (d : Denom) :
    l'.books.held d = l.books.held d := by
  obtain ⟨paid, hpaid, rfl⟩ := hb.paid
  rw [Ledger.books_setNonce]
  exact Books.held_of_transfer (Ledger.books_of_transfer hpaid) d

theorem Ready.paid (hr : Ready c m price l) (hb : Bought c m price l l') : Paid c m price l' := by
  have hmoved := hb.moves.balance c.feeCollector c.evmDenom
  rw [if_neg fun he => hr.distinct he.1.symm, if_pos ⟨rfl, rfl⟩] at hmoved
  refine ⟨(hb.held c.evmDenom).symm ▸ hr.held, Quantity.le_def.mpr ?_⟩
  rw [Ledger.balance]
  omega

/-- The value of the message is still there, even if the sender has bought its gas from itself. -/
theorem Bought.value_le (hb : Bought c m price l l')
    (hfunds : (price.satMul m.gasLimit.widen).toNat + m.value.toNat ≤
      (l.balance m.sender c.evmDenom).toNat) : m.value ≤ l'.balance m.sender c.evmDenom := by
  have hmoved := hb.moves.balance m.sender c.evmDenom
  rw [if_pos ⟨rfl, rfl⟩] at hmoved
  rw [Ledger.balance] at hfunds
  rw [Quantity.le_def, Ledger.balance]
  omega

/-- An execution leaves the collector what it needs to pay back. -/
theorem Paid.executed {headers : HeaderStore} {b : Block} (hp : Paid c m price l)
    (hdistinct : m.sender ≠ c.feeCollector)
    (hungranted : ∀ g, l.grant? c.feeCollector m.sender = some g → g.limitFor c.evmDenom = 0)
    (hx : Executed Native.interpreter ⟨headers, b, c.precompiles⟩ c m available l result l') :
    Paid c m price l' := by
  cases hx with
  | denied | reverted => exact hp
  | kept _ hrun _ hkept _ hcommit =>
    have hdoes := Native.run_does hrun hkept
    have hbooks := Ledger.books_of_commit hcommit
    have hheld := hdoes.held c.evmDenom
    have hbalance := hdoes.balance_le (d := c.evmDenom) hdistinct.symm hungranted
    rw [Ledger.balance, Ledger.balance, ← hbooks] at hbalance
    rw [← hbooks] at hheld
    exact ⟨hheld ▸ hp.held, Nat.le_trans hp.purchase hbalance⟩

theorem Executed.gasUsed_le {ν : Type} {interpreter : Interpreter ν} {h : Host}
    (hx : Executed interpreter h c m available l result l') : result.gasUsed ≤ available := by
  cases hx with
  | denied => exact Nat.zero_le _
  | reverted _ _ hgas _ => exact hgas
  | kept _ _ hgas _ _ _ => exact hgas

/-- No execution reports more gas than it was given. -/
theorem not_overreports {h : Host} {stop : Stop} :
    ¬Overreports Native.interpreter h c m available l stop := by
  intro hover
  obtain ⟨result, notes, ran, hrun, hgas, -⟩ := hover
  exact absurd (Native.run_comes hrun).gasUsed_le (Nat.not_le_of_lt hgas)

/-- A message that was denied did not come to its value. -/
theorem Ran.vmError_ne {h : Host}
    (hr : Ran Native.interpreter h c m available l result l')
    (hheld : l.books.held c.evmDenom < 2 ^ (256 : Nat))
    (hvalue : m.value ≤ l.balance m.sender c.evmDenom) :
    result.vmError.getD "" ≠ Native.Failure.insufficientBalance.message := by
  cases hr with
  | denied => decide +kernel
  | closed _ hrun _ _ =>
    exact (Native.run_comes hrun).vmError_ne (Ledger.exists_transfer (l := l.openScope) hheld hvalue)

/-- What is left of the gas limit was bought. -/
theorem Charged.remaining_le {tally : GasTally} (hc : Charged c m intrinsic result tally)
    (hfit : intrinsic.toNat + result.gasUsed.toNat ≤ m.gasLimit.toNat) :
    tally.remaining ≤ m.gasLimit := by
  obtain ⟨hlimit, -⟩ := hc.used_le hfit
  rw [Quantity.le_def, GasTally.remaining, Quantity.toNat_satSub, hlimit]
  exact Nat.sub_le _ _

section
open Fallible

variable {p : Progress Unit}

theorem buyGas_settles (hr : Ready c m price p.ledger) :
    Ends (buyGas c m price)
      (fun _ p' => ∃ l, Bought c m price p.ledger l ∧ p' = { p with ledger := l })
      (fun _ _ => False) p := by
  refine buyGas_ends.mono (fun _ _ hq => hq) ?_
  intro stop p' hstop
  obtain ⟨-, error, -, ⟨-, hunknown⟩ | herror⟩ := hstop
  · cases hunknown.symm.trans hr.collector
  · have hfunds : price.satMul m.gasLimit.widen ≤ p.ledger.balance m.sender c.evmDenom :=
      Nat.le_trans (Nat.le_add_right _ _) hr.funds
    obtain ⟨l, hpaid⟩ := Ledger.exists_transfer hr.held hfunds c.feeCollector
    cases herror.symm.trans hpaid

theorem settleGas_settles (hshare : c.minGasMultiplier.IsShare)
    (hfit : intrinsic.toNat + result.gasUsed.toNat ≤ m.gasLimit.toNat)
    (hmeter : p.meter.consumed = 0) (hlimit : m.gasLimit ≤ p.meter.limit) :
    Ends (settleGas c m intrinsic result)
      (fun tally p' => Charged c m intrinsic result tally ∧ p'.ledger = p.ledger)
      (fun _ _ => False) p := by
  refine settleGas_ends.mono (fun _ _ hq => ⟨hq.1, hq.2.2⟩) ?_
  intro stop p' hstop
  obtain ⟨-, -, hnever⟩ := hstop
  obtain ⟨tally, hcharged⟩ := exists_charged hshare hfit
  refine hnever tally _ hcharged (Meter.reconcile_eq_ok.mpr ⟨?_, ?_, rfl⟩)
  · rw [hmeter]
    exact Nat.zero_le _
  · exact Nat.le_trans (hcharged.used_le hfit).2 hlimit

theorem returnGas_settles {leftover : Gas} (hp : Paid c m price p.ledger)
    (hle : leftover ≤ m.gasLimit) :
    Ends (returnGas c m price leftover) (fun _ _ => True) (fun _ _ => False) p := by
  refine returnGas_ends.mono (fun _ _ _ => trivial) ?_
  intro stop p' hstop
  obtain ⟨-, ⟨hmore, -⟩ | ⟨error, -, herror⟩⟩ := hstop
  · exact absurd hle (Nat.not_le_of_lt hmore)
  · have hpurchase := Nat.le_trans (satMul_widen_le price hle) hp.purchase
    obtain ⟨l, hpaid⟩ := Ledger.exists_transfer hp.held hpurchase m.sender
    cases herror.symm.trans hpaid

/-- From a ledger that is ready for it, a message goes the whole way. -/
theorem apply_settles (headers : HeaderStore) (b : Block) (hr : Ready c m price p.ledger)
    (hshare : c.minGasMultiplier.IsShare) (hintrinsic : intrinsic ≤ m.gasLimit)
    (hmeter : p.meter.consumed = 0) (hlimit : m.gasLimit ≤ p.meter.limit) :
    Ends (apply Native.interpreter ⟨headers, b, c.precompiles⟩ c m price intrinsic)
      (fun _ _ => True) (fun _ _ => False) p := by
  refine (buyGas_settles hr).bind fun _ p₁ hbought => ?_
  obtain ⟨l₁, hb, rfl⟩ := hbought
  cases havailable : m.gasLimit.sub? intrinsic with
  | none =>
    have hless := Quantity.sub?_eq_none.mp havailable
    exact absurd hintrinsic (Nat.not_le_of_lt hless)
  | some available =>
    have hinside := (Native.interpreter_wellNested c m available headers b l₁.openScope).inside
    refine ends_bind.mpr ((execute_ends hinside).mono ?_ fun _ _ hstop => not_overreports hstop.1)
    intro result p₂ hran
    obtain ⟨hx, hm₂⟩ := hran
    have hfit : intrinsic.toNat + result.gasUsed.toNat ≤ m.gasLimit.toNat := by
      have hused := Quantity.le_def.mp hx.gasUsed_le
      have hleft := (Quantity.sub?_eq_some.mp havailable).2
      have hbelow := Quantity.le_def.mp hintrinsic
      omega
    have hungranted : ∀ g, l₁.grant? c.feeCollector m.sender = some g →
        g.limitFor c.evmDenom = 0 := by
      intro g hg
      refine hr.ungranted g ?_
      rw [← hg]
      exact congrArg (SortedMap.get? · (c.feeCollector, m.sender)) hb.moves.grants.symm
    have hpaid := (hr.paid hb).executed hr.distinct hungranted hx
    have hsettles := settleGas_settles (p := p₂) hshare hfit (hm₂ ▸ hmeter) (hm₂ ▸ hlimit)
    refine hsettles.bind fun tally p₃ hsettled => ?_
    obtain ⟨hcharged, hl₃⟩ := hsettled
    have hle := hcharged.remaining_le hfit
    exact (returnGas_settles (hl₃ ▸ hpaid) hle).bind fun _ _ _ => trivial

end

end Transition

/-! ## Messages that are accepted -/

namespace Engine

open Transition

variable {e : Engine} {m : Message} {b : Block} {meter : Meter} {c : ExecutionConfig}
  {price : Amount} {intrinsic : Gas}

theorem Admits.ready (ha : e.Admits m b meter c price intrinsic)
    (hheld : e.ledger.books.held e.params.evmDenom < 2 ^ (256 : Nat))
    (hcollector : e.ledger.accountExists e.params.feeCollector = true)
    (hsender : m.sender ≠ e.params.feeCollector)
    (hungranted : ∀ g, e.ledger.grant? e.params.feeCollector m.sender = some g →
      g.limitFor e.params.evmDenom = 0) : Ready c m price e.ledger.openScope := by
  obtain ⟨-, -, -, hdenom, hfees, -⟩ := ha.of_params
  rw [← hdenom] at hheld hungranted
  rw [← hfees] at hcollector hsender hungranted
  exact ⟨hheld, hcollector, hsender, hungranted, ha.funds_le⟩

/-- A message goes the whole way, and then its scope can be closed. -/
theorem Admits.exists_receipt (ha : e.Admits m b meter c price intrinsic) (he : e.Built)
    (hready : Ready c m price e.ledger.openScope) (hmeter : meter.consumed = 0) (keep : Bool) :
    ∃ receipt, (e.apply Native.interpreter m b meter keep).1.result = .ok receipt := by
  obtain ⟨-, -, -, -, -, hmultiplier⟩ := ha.of_params
  have hshare : c.minGasMultiplier.IsShare :=
    hmultiplier ▸ Params.isShare_of_validate he.params_valid
  have hlimit := Message.gasLimit_le_of_checkRules ha.passes.rules
  have hsettles := apply_settles (p := ⟨e.ledger.openScope, meter, none⟩) e.headers b hready hshare
    ha.passes.affordable hmeter hlimit
  have hends := apply_ends ⟨e.ledger.openScope, meter, none⟩ price intrinsic
    (staysInside_of_wellNested Native.interpreter_wellNested e.headers b c m price e.ledger.openScope)
  obtain ⟨kept, hsnd⟩ := tableFor_snd e b.height
  rw [apply_of_admits ha, hsnd]
  cases hrun : (Transition.apply Native.interpreter ⟨e.headers, b, c.precompiles⟩ c m price
      intrinsic).run.run ⟨e.ledger.openScope, meter, none⟩ with
  | mk result p =>
    cases result with
    | error stop => exact (hsettles.of_run_error hrun).elim
    | ok receipt =>
      obtain ⟨⟨l, hc⟩, hb⟩ := close_of_finished (hends.of_run_ok hrun)
      refine ⟨receipt, ?_⟩
      cases keep with
      | true => simp only [applyChecked, hrun, if_true, hc]
      | false => simp only [applyChecked, hrun, Bool.false_eq_true, if_false, hb]

/-- A message without a virtual machine that passes the checks gets a receipt, whether it is kept or
simulated, and does not fail for want of the value that it sends. The coins of the denomination can be
counted together, the collector has an account, is not the sender and has granted the sender none of
these coins, and the meter shows no charges yet. -/
theorem accepted_messages_settle (he : e.Built)
    (hheld : e.ledger.books.held e.params.evmDenom < 2 ^ (256 : Nat))
    (hcollector : e.ledger.accountExists e.params.feeCollector = true)
    (hsender : m.sender ≠ e.params.feeCollector)
    (hungranted : ∀ g, e.ledger.grant? e.params.feeCollector m.sender = some g →
      g.limitFor e.params.evmDenom = 0)
    (ha : e.Admits m b meter c price intrinsic) (hmeter : meter.consumed = 0) (keep : Bool) :
    ∃ receipt, (e.apply Native.interpreter m b meter keep).1.result = .ok receipt ∧
      receipt.vmError ≠ Native.Failure.insufficientBalance.message := by
  have hready := ha.ready hheld hcollector hsender hungranted
  obtain ⟨receipt, hok⟩ := ha.exists_receipt he hready hmeter keep
  refine ⟨receipt, hok, ?_⟩
  obtain ⟨c, price, intrinsic, s, ha, rfl, hc, -⟩ := apply_completed hok
  have hready := ha.ready hheld hcollector hsender hungranted
  have hpaid := hready.paid hc.bought
  exact hc.ran.vmError_ne hpaid.held (hc.bought.value_le hready.funds)

/-- What messages of the small engine are executed under. -/
def smallConfig : ExecutionConfig where
  rules := small.params.forks.rules smallBlock.chainId smallBlock.height
  coinbase := .ofLow 3
  baseFee := none
  precompiles := ⟨#[⟨.external, ⟨.ofLow 4, "aledger", small.params.approvalSeconds⟩⟩]⟩
  traced := false
  accessControl := small.params.accessControl
  evmDenom := small.params.evmDenom
  feeCollector := small.params.feeCollector
  minGasMultiplier := small.params.minGasMultiplier

/-- Has the token move coins of account 3, which lets account 1 spend some. -/
def spending : Message :=
  ⟨.ofLow 1, some (.ofLow 4), 0, (TokenRequest.transferFrom (.ofLow 3) (.ofLow 5) 40).calldata,
    60000, .legacy 2, 0, []⟩

/-- The message is admitted, and gets a receipt. Half of its gas is charged, and coins of account 3
have moved to account 5. -/
theorem spending_settles :
    small.Built ∧ small.ledger.books.held small.params.evmDenom < 2 ^ (256 : Nat) ∧
      small.ledger.accountExists small.params.feeCollector = true ∧
      spending.sender ≠ small.params.feeCollector ∧
      small.ledger.grant? small.params.feeCollector spending.sender = none ∧
      small.Admits spending smallBlock (.ofLimit 100000) smallConfig 2 21484 ∧
      (∃ receipt, (small.apply Native.interpreter spending smallBlock (.ofLimit 100000) true).1.result =
          .ok receipt ∧ receipt.vmError ≠ Native.Failure.insufficientBalance.message) ∧
      let applied := small.apply Native.interpreter spending smallBlock (.ofLimit 100000) true
      applied.1.meter.consumed = 30000 ∧
        applied.2.ledger.balance (.ofLow 1) "aledger" = 940000 ∧
        small.ledger.balance (.ofLow 3) "aledger" = 500 ∧
        applied.2.ledger.balance (.ofLow 3) "aledger" = 460 ∧
        applied.2.ledger.balance (.ofLow 5) "aledger" = 40 := by
  have hheld : small.ledger.books.held small.params.evmDenom < 2 ^ (256 : Nat) := by decide +kernel
  have hcollector : small.ledger.accountExists small.params.feeCollector = true := by
    decide +kernel
  have hsender : spending.sender ≠ small.params.feeCollector := by decide +kernel
  have hungranted : small.ledger.grant? small.params.feeCollector spending.sender = none := by
    decide +kernel
  have hadmits : small.Admits spending smallBlock (.ofLimit 100000) smallConfig 2 21484 :=
    ⟨rfl, rfl, by decide +kernel⟩
  have hsettles := accepted_messages_settle small_built hheld hcollector hsender
    (fun g hg => by cases hungranted.symm.trans hg) hadmits rfl true
  exact ⟨small_built, hheld, hcollector, hsender, hungranted, hadmits, hsettles, by decide +kernel⟩

end Engine

end EvmBank
