import EvmBank.Proofs.Engine.Settlement

/-!
# Interpreters that do not keep to their scope

Scopes are named by their depth, so that an interpreter which closes the scope of the execution, or
that of the message, and opens another has put its own in the place of the engine's. What comes of a
message with an interpreter of which nothing is known depends on which of the two scopes stayed open
while it ran (`Program.LeavesOpen`): if that of the execution did, nothing that it wrote is left of a
message that was reverted; if that of the message did, and no further scope was left open at the end,
nothing at all is left of one that was rejected (`failed_message_leaves_nothing`). Otherwise writes may
stay, and scopes that were left open stop the rollback of the message itself
(`unbalanced_scopes_leave_writes`).
-/

namespace EvmBank

namespace Transition

open Fallible Ledger

variable {ν : Type} {interpreter : Interpreter ν} {h : Host} {c : ExecutionConfig} {m : Message}
  {price : Amount} {intrinsic available leftover : Gas} {base l l' : Ledger} {p : Progress ν}

theorem Repaid.with_logs {logs : List Log} (hr : Repaid c m price leftover { l with logs } l') :
    ∃ repaid, Repaid c m price leftover l repaid ∧ l' = { repaid with logs } := by
  rcases hr with ⟨hzero, rfl⟩ | hpaid
  · exact ⟨l, .inl ⟨hzero, rfl⟩, rfl⟩
  · rw [transfer_with_logs] at hpaid
    cases ht : l.transfer c.feeCollector m.sender c.evmDenom (price.satMul leftover.widen) with
    | error cause =>
      rw [ht] at hpaid
      cases hpaid
    | ok repaid =>
      rw [ht] at hpaid
      cases hpaid
      exact ⟨repaid, .inr ht, rfl⟩

/-! ## The scope of the message -/

/-- Whether a scope inside it is closed or cannot be, the scope of the message is then the innermost
one, if at most one was open inside. -/
theorem closeScope_innermost (keep : Bool) (hw : base.Within p.ledger)
    (hd : p.ledger.depth ≤ base.depth + 2) :
    Ends (closeScope (base.depth + 1) keep) (fun _ p' => base.Innermost p'.ledger)
      (fun _ p' => base.Innermost p'.ledger) p := by
  rw [ends_closeScope]
  cases hclosed : (if keep then p.ledger.commit (base.depth + 1)
    else p.ledger.rollback (base.depth + 1)) with
  | ok l => exact Innermost.of_close hw hclosed
  | error cause => exact Innermost.of_refused hw hd hclosed

theorem execute_innermost (hl : base.Innermost p.ledger)
    (hran : base.Within (h.run (interpreter c m available) p.ledger.openScope).2)
    (hdepth : (h.run (interpreter c m available) p.ledger.openScope).2.depth ≤ base.depth + 2) :
    Ends (execute interpreter h c m available) (fun _ p' => base.Innermost p'.ledger)
      (fun _ p' => base.Innermost p'.ledger) p := by
  unfold execute
  split
  · simp only [interpret, ends_bind, ends_ledger, hl.depth]
    cases hrun : h.run (interpreter c m available) p.ledger.openScope with
    | mk returned ran =>
      obtain ⟨result, notes⟩ := returned
      rw [hrun] at hran hdepth
      simp only [ends_modify]
      -- Too much gas, a failure and a success differ only in how the scope is to be closed.
      have hclosed (keep : Bool) := closeScope_innermost (p := ⟨ran, p.meter, some notes⟩)
        keep hran hdepth
      split
      · exact (hclosed false).bind fun _ _ hl => hl
      · exact (hclosed _).bind fun _ _ hl => hl
  · exact hl

theorem apply_innermost (hl : base.Innermost p.ledger)
    (hran : ∀ available l₁, Bought c m price p.ledger l₁ → m.gasLimit.sub? intrinsic = some available →
      base.Within (h.run (interpreter c m available) l₁.openScope).2 ∧
        (h.run (interpreter c m available) l₁.openScope).2.depth ≤ base.depth + 2) :
    Ends (apply interpreter h c m price intrinsic) (fun _ p' => base.Innermost p'.ledger)
      (fun _ p' => base.Innermost p'.ledger) p := by
  refine ends_bind.mpr (buyGas_ends.mono ?_ fun _ _ he => he.1 ▸ hl)
  rintro _ _ ⟨l₁, hb, rfl⟩
  have hl₁ := hl.grows hb.grows
  cases ha : m.gasLimit.sub? intrinsic with
  | none => exact hl₁
  | some available =>
    obtain ⟨hwithin, hdepth⟩ := hran available l₁ hb ha
    refine (execute_innermost hl₁ hwithin hdepth).bind ?_
    intro result p₂ hl₂
    refine ends_bind.mpr (settleGas_ends.mono ?_ fun _ _ he => he.1 ▸ hl₂)
    rintro tally p₃ ⟨-, -, hl₃⟩
    rw [← hl₃] at hl₂
    refine ends_bind.mpr (returnGas_ends.mono ?_ fun _ _ he => he.1 ▸ hl₂)
    rintro _ _ ⟨hle, l₄, hrepaid, rfl⟩
    exact (hl₂.grows (hrepaid.returned hle).grows).dropLogs

end Transition

namespace Engine

open Fallible Ledger Transition

variable {ν : Type} {e : Engine} {interpreter : Interpreter ν} {m : Message} {b : Block}
  {meter : Meter} {keep : Bool}

/-- What is asked of the execution of a message, once the message has passed the checks and its gas is
bought: of the host, of the program, and of the ledger on which its scope is opened. -/
def Executes (e : Engine) (interpreter : Interpreter ν) (m : Message) (b : Block) (meter : Meter)
    (P : Host → Program (ExecutionResult × ν) → Ledger → Prop) : Prop :=
  ∀ ⦃c : ExecutionConfig⦄ ⦃price : Amount⦄ ⦃intrinsic available : Gas⦄ ⦃bought : Ledger⦄,
    e.Admits m b meter c price intrinsic → Bought c m price e.ledger.openScope bought →
      m.gasLimit.sub? intrinsic = some available →
        P ⟨e.headers, b, c.precompiles⟩ (interpreter c m available) bought

/-- A message that got a receipt leaves as many scopes open as there were. -/
theorem depth_of_receipt {receipt : Receipt}
    (h : (e.apply interpreter m b meter keep).1.result = .ok receipt) :
    (e.apply interpreter m b meter keep).2.ledger.depth = e.ledger.depth := by
  obtain ⟨c, price, intrinsic, s, -, -, -, hclosed⟩ := apply_completed h
  exact (depth_of_close keep hclosed).1

/-- Of a message that was reverted only the purchase of its gas and the repayment are left, if the
scope of its execution stayed open while its interpreter ran. -/
theorem reverted_leaves_purchase {receipt : Receipt}
    (h : (e.apply interpreter m b meter keep).1.result = .ok receipt)
    (hreverted : receipt.reverted = true)
    (hopen : e.Executes interpreter m b meter fun h p l =>
      p.LeavesOpen h l.openScope.depth l.openScope) :
    ∃ c price intrinsic leftover bought repaid, e.Admits m b meter c price intrinsic ∧
      Bought c m price e.ledger.openScope bought ∧ Repaid c m price leftover bought repaid ∧
      receipt.gasUsed.toNat + leftover.toNat = m.gasLimit.toNat ∧
      (if keep then repaid.dropLogs.commit e.ledger.depth
        else repaid.dropLogs.rollback e.ledger.depth) =
          .ok (e.apply interpreter m b meter keep).2.ledger := by
  obtain ⟨c, price, intrinsic, s, hadmits, rfl, hc, hclosed⟩ := apply_completed h
  obtain ⟨logs, hexecuted⟩ := hc.ran.of_reverted hreverted fun _ =>
    hopen hadmits hc.bought hc.available
  have hrepaid := hc.repaid
  rw [hexecuted] at hrepaid
  obtain ⟨repaid, hrepaid, heq⟩ := hrepaid.with_logs
  rw [heq] at hclosed
  refine ⟨c, price, intrinsic, s.tally.remaining, s.bought, repaid, hadmits, hc.bought, hrepaid, ?_,
    hclosed⟩
  obtain ⟨hlimit, hused⟩ := hc.used_le
  have hle := Quantity.le_def.mp hused
  change s.tally.used.toNat + s.tally.remaining.toNat = _
  rw [GasTally.remaining, Quantity.toNat_satSub, hlimit]
  omega

/-- A message that is rejected leaves nothing but the buffer of logs behind, if the scope of the message
stayed open while its interpreter ran, and at the end no more was open inside than the scope of the
execution. -/
theorem rejected_leaves_logs {cause : TransitionError}
    (h : (e.apply interpreter m b meter keep).1.result = .error (.rejected cause))
    (hopen : e.Executes interpreter m b meter fun h p l =>
      p.LeavesOpen h l.depth l.openScope ∧ (h.run p l.openScope).2.depth ≤ l.openScope.depth) :
    ∃ logs, (e.apply interpreter m b meter keep).2.ledger = { e.ledger with logs } := by
  rcases apply_cases e interpreter m b meter keep with
    ⟨_, kept, -, happly⟩ | ⟨c, price, intrinsic, kept, hadmits, happly⟩
  · rw [happly]
    exact ⟨e.ledger.logs, rfl⟩
  · rw [happly] at h ⊢
    have hends : Ends (Transition.apply interpreter ⟨e.headers, b, c.precompiles⟩ c m price intrinsic)
        (fun _ p' => e.ledger.Innermost p'.ledger) (fun _ p' => e.ledger.Innermost p'.ledger)
        ⟨e.ledger.openScope, meter, none⟩ := by
      refine apply_innermost (.openScope e.ledger) fun available bought hbought havailable => ?_
      obtain ⟨hleaves, hdepth⟩ := hopen hadmits hbought havailable
      have hin := (Innermost.openScope e.ledger).grows hbought.grows
      have hlt : e.ledger.depth < bought.depth := hin.within.depth_lt
      exact ⟨hleaves.run hin.within.openInner hlt, hdepth.trans (Nat.le_of_eq (congrArg _ hin.depth))⟩
    cases hrun : (Transition.apply interpreter ⟨e.headers, b, c.precompiles⟩ c m price
        intrinsic).run.run ⟨e.ledger.openScope, meter, none⟩ with
    | mk result p =>
      simp only [applyChecked, hrun] at h ⊢
      rcases result with (cause | fault) | receipt
      · rw [(hends.of_run_error hrun).rollback_eq]
        exact ⟨_, rfl⟩
      · cases h
      -- The scope of a message that came to its end can be closed, so that this is no rejection.
      · have hin := hends.of_run_ok hrun
        obtain ⟨l, hclosed⟩ := exists_close hin.depth keep
        dsimp only at h
        rw [hclosed] at h
        cases h

/-! ## Failed messages -/

/-- Whatever the interpreter does to scopes, a message that got a receipt leaves as many scopes open as
there were. If it was reverted, nothing but the purchase of its gas and the repayment are left of it,
provided that the scope of its execution stayed open while the interpreter ran. If it was rejected,
the ledger is as before but for the buffered logs, provided that the scope of the message stayed open,
and no further scope than that of the execution was open at the end. -/
theorem failed_message_leaves_nothing (e : Engine) (interpreter : Interpreter ν) (m : Message)
    (b : Block) (meter : Meter) (keep : Bool) :
    let applied := e.apply interpreter m b meter keep
    (∀ receipt, applied.1.result = .ok receipt →
      applied.2.ledger.depth = e.ledger.depth ∧
        (receipt.reverted = true →
          (e.Executes interpreter m b meter fun h p l =>
            p.LeavesOpen h l.openScope.depth l.openScope) →
          ∃ c price intrinsic leftover bought repaid, e.Admits m b meter c price intrinsic ∧
            Bought c m price e.ledger.openScope bought ∧ Repaid c m price leftover bought repaid ∧
            receipt.gasUsed.toNat + leftover.toNat = m.gasLimit.toNat ∧
            (if keep then repaid.dropLogs.commit e.ledger.depth
              else repaid.dropLogs.rollback e.ledger.depth) = .ok applied.2.ledger)) ∧
    ∀ cause, applied.1.result = .error (.rejected cause) →
      (e.Executes interpreter m b meter fun h p l =>
        p.LeavesOpen h l.depth l.openScope ∧ (h.run p l.openScope).2.depth ≤ l.openScope.depth) →
      ∃ logs, applied.2.ledger = { e.ledger with logs } :=
  ⟨fun _ h => ⟨depth_of_receipt h, fun hreverted hopen => reverted_leaves_purchase h hreverted hopen⟩,
    fun _ h hopen => rejected_leaves_logs h hopen⟩

/-- Stores code, and then closes the scope of the execution itself. -/
def closing : Interpreter Unit := fun _ _ _ => do
  Program.ledger (.setCode (.ofLow 7) [1])
  let _ ← Program.ledger (.commit 1)
  return (.success 100 [], ())

/-- Inside one other scope, that of the execution has the name that is closed. -/
theorem closing_leavesOpen {h : Host} {c : ExecutionConfig} {gas : Gas} {l : Ledger}
    (hd : l.depth = 1) :
    (closing c m gas).LeavesOpen h l.depth l.openScope ∧
      (h.run (closing c m gas) l.openScope).2.depth ≤ l.openScope.depth := by
  have hopened : l.openScope.depth = 1 + 1 := congrArg Nat.succ hd
  have hstored : (l.openScope.setCode (.ofLow 7) [1]).depth = 1 + 1 :=
    (Grows.refl.setCode (.ofLow 7) [1]).depth_eq.trans hopened
  have hclosed : ((l.openScope.setCode (.ofLow 7) [1]).answer (.commit 1)).2.depth = 1 :=
    depth_commit hstored
  refine ⟨⟨?_, ?_, trivial⟩, ?_⟩
  · change l.depth ≤ (l.openScope.setCode (.ofLow 7) [1]).depth
    omega
  · change l.depth ≤ ((l.openScope.setCode (.ofLow 7) [1]).answer (.commit 1)).2.depth
    omega
  · change ((l.openScope.setCode (.ofLow 7) [1]).answer (.commit 1)).2.depth ≤ _
    omega

/-- A message is rejected if its execution has closed its own scope, and leaves nothing. One whose
execution keeps to its scope and fails leaves no code. -/
theorem closing_leaves_nothing :
    let applied (interpreter : Interpreter Unit) :=
      small.apply interpreter halted smallBlock (.ofLimit 100000) true
    (∃ cause logs, (applied closing).1.result = .error (.rejected cause) ∧
        (applied closing).2.ledger = { small.ledger with logs }) ∧
      ∃ receipt, (applied halting).1.result = .ok receipt ∧ receipt.reverted = true ∧
        (applied halting).2.ledger.books.codes = small.ledger.books.codes := by
  intro applied
  constructor
  · obtain ⟨cause, hrejected⟩ : ∃ cause, (applied closing).1.result = .error (.rejected cause) :=
      ⟨_, rfl⟩
    obtain ⟨logs, hledger⟩ := (failed_message_leaves_nothing small closing halted smallBlock
      (.ofLimit 100000) true).2 cause hrejected fun _ _ _ _ _ _ hb _ =>
        closing_leavesOpen hb.grows.depth_eq
    exact ⟨cause, logs, hrejected, hledger⟩
  · obtain ⟨receipt, hok, hreverted⟩ : ∃ receipt,
        (applied halting).1.result = .ok receipt ∧ receipt.reverted = true := ⟨_, rfl, rfl⟩
    obtain ⟨c, price, intrinsic, leftover, bought, repaid, -, hb, hr, -, hclosed⟩ :=
      ((failed_message_leaves_nothing small halting halted smallBlock (.ofLimit 100000) true).1
        receipt hok).2 hreverted fun c _ _ available _ _ _ _ =>
          (Program.keepsScopes_iff.mp (halting_keepsScopes c halted available _ _ _)).1
    refine ⟨receipt, hok, hreverted, ?_⟩
    rw [(commit_dropLogs hclosed).1, hr.frame.2.1, hb.codes]
    rfl

/-- Leaves a scope open. -/
def lingering : Interpreter Unit := fun _ _ _ => do
  let _ ← Program.ledger .openScope
  return (.success 100 [], ())

/-- Closes both scopes around it, stores code, and opens two others. -/
def reopening : Interpreter Unit := fun _ _ _ => do
  let _ ← Program.ledger (.commit 1)
  let _ ← Program.ledger (.commit 0)
  Program.ledger (.setCode (.ofLow 7) [1])
  let _ ← Program.ledger .openScope
  let _ ← Program.ledger .openScope
  return (.failure 100 "halted", ())

/-- With a scope left open, the message is rejected and still pays for its gas, and three scopes are
open behind it. With the engine's scopes replaced by others, the message is reverted and still leaves
the code. -/
theorem unbalanced_scopes_leave_writes :
    let applied (interpreter : Interpreter Unit) :=
      small.apply interpreter halted smallBlock (.ofLimit 100000) true
    ((applied lingering).1.result = .error (.rejected (.ledger (.scopeMismatch 2 0))) ∧
        (applied lingering).2.ledger.depth = small.ledger.depth + 3 ∧
        ((applied lingering).2.ledger.balance (.ofLow 2) "aledger").toNat =
          (small.ledger.balance (.ofLow 2) "aledger").toNat + 60000) ∧
      (∃ receipt, (applied reopening).1.result = .ok receipt ∧ receipt.reverted = true) ∧
        (applied reopening).2.ledger.code (.ofLow 7) = [1] ∧ small.ledger.code (.ofLow 7) = [] :=
  ⟨⟨rfl, by decide +kernel, by decide +kernel⟩, ⟨_, rfl, rfl⟩, by decide +kernel, by decide +kernel⟩

end Engine

end EvmBank
