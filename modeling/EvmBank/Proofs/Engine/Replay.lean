import EvmBank.Proofs.Engine.Checks
import EvmBank.Proofs.Engine.Contracts

/-!
# Messages that are submitted again

A message that is applied for good raises the nonce of its sender, and no nonce decreases. So no
message is applied for good a second time (`messages_are_applied_once`), with one exception: the count
of a sender stops at the greatest nonce, and a message with this nonce is applied as often as it is
submitted and can be paid for (`greatest_nonce_is_applied_again`).
-/

namespace EvmBank

theorem Quantity.lt_satAdd_one {n : Nonce} (h : n ≠ .greatest) : n < n.satAdd 1 := by
  have hfits := n.isLt
  have hless : n.toNat ≠ 2 ^ 64 - 1 := fun he => h (Quantity.toNat_inj.mp he)
  have hone : (1 : Nonce).toNat = 1 := rfl
  rw [Quantity.lt_def, Quantity.toNat_satAdd, hone]
  omega

/-- A message that the rules admit is refused, if it is not the next one of its sender. -/
theorem Message.precheck_nonceMismatch {m : Message} {c : ExecutionConfig} {l : Ledger} {limit : Gas}
    (hrules : m.checkRules c limit = .ok ()) (hnonce : l.nonce m.sender ≠ m.nonce) :
    m.precheck c l limit =
      .error (.invalidTransaction (.nonceMismatch (l.nonce m.sender) m.nonce)) := by
  have hsender : m.checkSender c l = .error (.nonceMismatch (l.nonce m.sender) m.nonce) := by
    rw [checkSender, refuseIf, if_pos hnonce]
    rfl
  rw [precheck, validate, hrules]
  simp only [bind, Except.bind, hsender, Except.mapError]

namespace Engine

variable {e : Engine} {m : Message} {b : Block} {meter : Meter} {c : ExecutionConfig}

theorem apply_nonceMismatch {ν : Type} (htable : (e.tableFor b.height).1 = .ok c.precompiles)
    (hconfig : ExecutionConfig.build e.params b e.proposer e.validators c.precompiles e.traced = .ok c)
    (hrules : m.checkRules c meter.limit = .ok ()) (hnonce : e.ledger.nonce m.sender ≠ m.nonce)
    (interpreter : Interpreter ν) (keep : Bool) :
    (e.apply interpreter m b meter keep).1.result =
      .error (.rejected (.invalidTransaction (.nonceMismatch (e.ledger.nonce m.sender) m.nonce))) := by
  rw [apply_of_config htable hconfig, Message.precheck_nonceMismatch hrules hnonce]
  rfl

/-- No message that gets a receipt, kept or simulated, has another nonce than its sender. -/
theorem nonce_eq_of_receipt {ν : Type} {interpreter : Interpreter ν} {keep : Bool} {receipt : Receipt}
    (h : (e.apply interpreter m b meter keep).1.result = .ok receipt) :
    e.ledger.nonce m.sender = m.nonce := by
  obtain ⟨_, _, _, _, hadmits, -⟩ := apply_completed h
  exact hadmits.passes.nonce

/-! ## Runs -/

/-- A message has counted. -/
def Counted (x : Message × Receipt) (b : Books) : Prop :=
  x.1.nonce.satAdd 1 ≤ b.nonce x.1.sender

theorem Counted.keeps {x : Message × Receipt} {b b' : Books} (hk : b.KeepsContracts b')
    (hx : Counted x b) : Counted x b' :=
  Nat.le_trans hx (hk.nonce_le x.1.sender)

theorem Counted.of_settled? {s : EngineStep} {x : Message × Receipt} (h : e.settled? s = some x) :
    Counted x (e.step s).ledger.books := by
  obtain ⟨b, meter, rfl, hok⟩ := settled?_eq_some h
  obtain ⟨-, hcounted, -⟩ := receipt_facts hok
  exact hcounted

/-- Of a sender whose count has not stopped, the message is no longer the next one. -/
theorem Counted.lt {x : Message × Receipt} {b : Books} (hx : Counted x b)
    (hnonce : x.1.nonce ≠ .greatest) : x.1.nonce < b.nonce x.1.sender :=
  Nat.lt_of_lt_of_le (Quantity.lt_satAdd_one hnonce) hx

theorem receipts_pairwise (e : Engine) (steps : List EngineStep) :
    (e.receipts steps).Pairwise fun x y =>
      x.1.nonce ≠ .greatest → (x.1.sender, x.1.nonce) ≠ (y.1.sender, y.1.nonce) := by
  refine pairwise_receipts (fun _ _ _ => Counted.of_settled?) (fun _ _ _ => Counted.keeps) ?_ e steps
  intro e s x y hx hy hnonce hsame
  obtain ⟨b, meter, rfl, hok⟩ := settled?_eq_some hy
  have hlater := hx.lt hnonce
  obtain ⟨hsender, hnonces⟩ := Prod.mk.inj hsame
  have hnext := nonce_eq_of_receipt hok
  rw [← hsender, ← hnonces] at hnext
  rw [show e.ledger.books.nonce x.1.sender = x.1.nonce from hnext] at hlater
  exact Nat.lt_irrefl _ hlater

/-- Of the messages of a run that are applied for good, no two have the same sender and nonce, if the
nonce is not the greatest one. Such a message gets no further receipt when it is submitted again after
the run; where it comes to the check of its nonce, that is why it is rejected. -/
theorem messages_are_applied_once (e : Engine) (steps : List EngineStep) :
    (((e.receipts steps).map fun x => (x.1.sender, x.1.nonce)).filter
        fun key => key.2 ≠ .greatest).Nodup ∧
      ∀ x ∈ e.receipts steps, x.1.nonce ≠ .greatest →
        ∀ (b : Block) (meter : Meter) (keep : Bool),
          let again := ((e.after steps).apply Native.interpreter x.1 b meter keep).1.result
          (∀ receipt, again ≠ .ok receipt) ∧
            ∀ c, ((e.after steps).tableFor b.height).1 = .ok c.precompiles →
              ExecutionConfig.build (e.after steps).params b (e.after steps).proposer
                  (e.after steps).validators c.precompiles (e.after steps).traced = .ok c →
              x.1.checkRules c meter.limit = .ok () →
                again = .error (.rejected (.invalidTransaction (.nonceMismatch
                  ((e.after steps).ledger.nonce x.1.sender) x.1.nonce))) := by
  refine ⟨?_, ?_⟩
  · rw [List.filter_map]
    refine List.pairwise_map.mpr (List.pairwise_filter.mpr ?_)
    refine (receipts_pairwise e steps).imp ?_
    intro x y hxy hx _
    exact hxy (of_decide_eq_true hx)
  · intro x hx hnonce b meter keep
    have hcounted := after_of_mem_receipts (fun _ _ _ => Counted.of_settled?)
      (fun _ _ _ => Counted.keeps) hx
    have hlater := hcounted.lt hnonce
    have hne : (e.after steps).ledger.nonce x.1.sender ≠ x.1.nonce := by
      intro hsame
      rw [show (e.after steps).ledger.books.nonce x.1.sender = x.1.nonce from hsame] at hlater
      exact Nat.lt_irrefl _ hlater
    refine ⟨fun receipt hok => hne (nonce_eq_of_receipt hok), ?_⟩
    intro c htable hconfig hrules
    exact apply_nonceMismatch htable hconfig hrules hne Native.interpreter keep

/-- An engine whose account 1 has come to the greatest nonce. -/
def exhausted : Engine := { small with ledger := small.ledger.setNonce (.ofLow 1) .greatest }

/-- A message with this nonce. -/
def lastMessage : EngineStep :=
  .apply ⟨.ofLow 1, some (.ofLow 5), 7, [], 30000, .legacy 2, .greatest, []⟩ smallBlock
    (.ofLimit 100000) true

/-- The message is applied for good, and then once more. -/
theorem greatest_nonce_is_applied_again :
    (exhausted.receipts [lastMessage, lastMessage]).map (fun x => (x.1.sender, x.1.nonce)) =
        [(.ofLow 1, .greatest), (.ofLow 1, .greatest)] ∧
      ((exhausted.after [lastMessage, lastMessage]).ledger.balance (.ofLow 5) "aledger").toNat = 14 := by
  decide +kernel

end Engine

end EvmBank
