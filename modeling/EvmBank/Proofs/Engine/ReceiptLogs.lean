import EvmBank.Proofs.Engine.Simulation
import EvmBank.Proofs.Execution.Emission

/-!
# The logs of a receipt

With a well-nested interpreter, a receipt holds what was buffered before the message, and behind it the
logs that its execution emitted and did not undo, in their order; none of the latter if the message was
reverted (`receipt_logs`). A message that got a receipt leaves an empty buffer, so that its logs are in
no receipt after it. What the program around the messages has buffered is in the next receipt, even of
a message that is reverted (`buffered_log_in_reverted_receipt`).
-/

namespace EvmBank

open Ledger

namespace Transition

variable {ν : Type} {interpreter : Interpreter ν} {h : Host} {c : ExecutionConfig} {m : Message}
  {price : Amount} {available leftover : Gas} {result : ExecutionResult} {l l' : Ledger}

theorem Repaid.logs (hr : Repaid c m price leftover l l') : l'.logs = l.logs := by
  rcases hr with ⟨-, rfl⟩ | hpaid
  · rfl
  · exact logs_transfer hpaid

/-- A well-nested execution adds the logs that it emitted and did not undo, unless it failed. -/
theorem Ran.logs {events : List LogEvent} (hr : Ran interpreter h c m available l result l')
    (hp : (interpreter c m available).WellNested h l.openScope.depth l.openScope)
    (hs : (interpreter c m available).Shows h l.openScope events) :
    l'.logs = l.logs ++ if result.reverted then [] else survivors events := by
  cases hr.executed hp.inside with
  | denied => exact (List.append_nil _).symm
  | reverted _ _ _ hreverted =>
    rw [if_pos hreverted, List.append_nil]
  | kept _ hrun _ hkept _ hc =>
    have hlogs := hp.logs_run hs
    rw [hrun] at hlogs
    obtain ⟨_, _, -, -, rfl⟩ := commit_eq_ok.mp hc
    rw [hkept, if_neg Bool.false_ne_true]
    exact hlogs

end Transition

namespace Engine

open Transition

variable {ν : Type} {e : Engine} {interpreter : Interpreter ν} {m : Message} {b : Block}
  {meter : Meter} {keep : Bool}

/-- A receipt holds the logs that were buffered before the message, and behind them those that its
execution emitted and did not undo, in their order; only the former if the message was reverted. The
buffer is empty afterwards. -/
theorem receipt_logs (hi : interpreter.WellNested) {receipt : Receipt}
    (h : (e.apply interpreter m b meter keep).1.result = .ok receipt) :
    (∃ c price intrinsic available bought events, e.Admits m b meter c price intrinsic ∧
      Bought c m price e.ledger.openScope bought ∧ m.gasLimit.sub? intrinsic = some available ∧
      (interpreter c m available).Shows ⟨e.headers, b, c.precompiles⟩ bought.openScope events ∧
      receipt.logs = e.ledger.logs ++ if receipt.reverted then [] else survivors events) ∧
    (e.apply interpreter m b meter keep).2.ledger.logs = [] := by
  obtain ⟨c, price, intrinsic, s, hadmits, rfl, hc, hclosed⟩ := apply_completed h
  have hp := hi c m s.available e.headers b s.bought.openScope
  obtain ⟨events, hevents⟩ :=
    Program.exists_shows ⟨e.headers, b, c.precompiles⟩ (interpreter c m s.available) s.bought.openScope
  refine ⟨⟨c, price, intrinsic, s.available, s.bought, events, hadmits, hc.bought, hc.available,
    hevents, ?_⟩, ?_⟩
  · calc s.repaid.logs = s.executed.logs := hc.repaid.logs
      _ = s.bought.logs ++ if s.result.reverted then [] else survivors events := hc.ran.logs hp hevents
      _ = e.ledger.logs ++ if s.result.reverted then [] else survivors events := by
        rw [hc.bought.logs]
        rfl
  · split at hclosed
    · exact (commit_dropLogs hclosed).2.1
    · obtain ⟨_, _, -, -, hledger⟩ := rollback_eq_ok.mp hclosed
      rw [hledger]
      exact List.take_nil

/-- Emits a log, and two more in scopes of their own, of which the first is rolled back. -/
def noting : Interpreter Unit := fun _ _ _ => do
  Program.ledger (.addLog ⟨.ofLow 5, [], [1]⟩)
  let undone ← Program.ledger .openScope
  Program.ledger (.addLog ⟨.ofLow 5, [], [2]⟩)
  let _ ← Program.ledger (.rollback undone)
  let kept ← Program.ledger .openScope
  Program.ledger (.addLog ⟨.ofLow 5, [], [3]⟩)
  let _ ← Program.ledger (.commit kept)
  return (.success 100 [], ())

theorem noting_wellNested : noting.WellNested := by
  intro c m gas headers b l
  let undoing := ((l.addLog ⟨.ofLow 5, [], [1]⟩).openScope.addLog ⟨.ofLow 5, [], [2]⟩)
  let undone := (undoing.answer (.rollback l.depth)).2
  have hundone : undone.depth = l.depth := depth_rollback rfl
  have hkept : ((undone.openScope.addLog ⟨.ofLow 5, [], [3]⟩).answer (.commit undone.depth)).2.depth =
      undone.depth := depth_commit rfl
  have hopened : l.depth ≤ undone.depth + 1 := hundone ▸ Nat.le_succ _
  exact ⟨nofun, Nat.le_refl _, nofun, Nat.le_succ _, nofun, Nat.le_succ _, nofun,
    Nat.le_of_eq hundone.symm, nofun, hopened, nofun, hopened, nofun,
    Nat.le_of_eq (hkept.trans hundone).symm, hkept.trans hundone⟩

/-- The first and the last of them are in the receipt. -/
theorem noting_receipt :
    noting.WellNested ∧ ∃ receipt,
      (small.apply noting halted smallBlock (.ofLimit 100000) true).1.result = .ok receipt ∧
        receipt.logs = [⟨.ofLow 5, [], [1]⟩, ⟨.ofLow 5, [], [3]⟩] ∧
        ∃ h c available bought events,
          (noting c halted available).Shows h (Ledger.openScope bought) events ∧
            survivors events = receipt.logs := by
  obtain ⟨receipt, hok, hreverted, hlogs⟩ : ∃ receipt,
      (small.apply noting halted smallBlock (.ofLimit 100000) true).1.result = .ok receipt ∧
        receipt.reverted = false ∧ receipt.logs = [⟨.ofLow 5, [], [1]⟩, ⟨.ofLow 5, [], [3]⟩] :=
    ⟨_, rfl, rfl, rfl⟩
  obtain ⟨⟨c, _, _, available, bought, events, -, -, -, hshows, hown⟩, -⟩ :=
    receipt_logs noting_wellNested hok
  rw [hreverted, if_neg Bool.false_ne_true] at hown
  exact ⟨noting_wellNested, receipt, hok, hlogs, _, c, available, bought, events, hshows, hown.symm⟩

/-- An engine on whose ledger a log was buffered, and account 5 holds code. -/
def buffering : Engine :=
  { small with ledger := (small.ledger.setCode (.ofLow 5) [1]).addLog ⟨.ofLow 8, [], []⟩ }

/-- Code cannot be called without a virtual machine, so that a message to account 5 is reverted. Its
receipt still holds the log from before. -/
theorem buffered_log_in_reverted_receipt :
    Native.interpreter.WellNested ∧ ∃ receipt,
      (buffering.apply Native.interpreter sending smallBlock (.ofLimit 100000) true).1.result =
          .ok receipt ∧
        receipt.reverted = true ∧ receipt.logs = [⟨.ofLow 8, [], []⟩] :=
  ⟨Native.interpreter_wellNested, _, rfl, rfl, rfl⟩

end Engine

end EvmBank
