import EvmBank.Proofs.Engine.Settlement

/-!
# Simulated messages

A message whose effects are not kept runs in the same scope as one whose effects are, and only the
end of the scope differs. So a simulation tells what the message comes to, and leaves the ledger as it
was (`simulation_predicts`), if the interpreter keeps the scopes around it and no logs were buffered
before. All that stays behind is the table of precompiled contracts, and a table that was found for a
height is found again for it (`tableFor_tableFor`).
-/

namespace EvmBank

namespace Transition

variable {ν : Type} {interpreter : Interpreter ν} {c : ExecutionConfig} {m : Message}
  {price : Amount} {l l' : Ledger}

theorem Bought.logs (hb : Bought c m price l l') : l'.logs = l.logs := by
  obtain ⟨paid, hpaid, rfl⟩ := hb.paid
  exact (Ledger.logs_setNonce paid m.sender _).trans (Ledger.logs_transfer hpaid)

theorem staysInside_of_keepsScopes (hi : interpreter.KeepsScopes) (headers : HeaderStore) (b : Block)
    (c : ExecutionConfig) (m : Message) (price : Amount) (hlogs : l.logs = []) :
    StaysInside interpreter ⟨headers, b, c.precompiles⟩ c m price l := by
  intro available l₁ hb
  exact (hi c m available headers b l₁.openScope).inside (hb.logs.trans hlogs)

end Transition

namespace Engine

open Transition

variable {ν : Type} {e : Engine} {interpreter : Interpreter ν} {m : Message} {b : Block}
  {meter : Meter} {c : ExecutionConfig} {price : Amount} {intrinsic : Gas}

/-! ## The table of a height -/

/-- A table that was found for a height is the one that is found again. -/
theorem tableFor_tableFor (e : Engine) (height : Height) :
    (e.tableFor height).2.tableFor height = e.tableFor height := by
  rcases tableFor_cases e height with ⟨table, -, htable⟩ | hbuild
  · rw [htable]
    exact htable
  · rw [hbuild]
    cases htable : PrecompileTable.build e.registry e.params.tokens e.params.approvalSeconds with
    | ok table => simp only [buildTable, htable, tableFor, if_true]
    | error cause =>
      have hsame : e.buildTable height = (.error (.registry cause), e) := by
        simp only [buildTable, htable]
      rw [hsame] at hbuild ⊢
      exact hbuild

/-- Having found the table before makes no difference to a message. -/
theorem apply_tableFor (e : Engine) (interpreter : Interpreter ν) (m : Message) (b : Block)
    (meter : Meter) (keep : Bool) :
    (e.tableFor b.height).2.apply interpreter m b meter keep =
      e.apply interpreter m b meter keep := by
  simp only [apply, tableFor_tableFor]

/-! ## Both ends of a scope -/

/-- Whether its effects are kept makes no difference to what a message comes to. If they are not, and
nothing went wrong in the engine itself, the engine is as before. -/
theorem applyChecked_simulated
    (hi : StaysInside interpreter ⟨e.headers, b, c.precompiles⟩ c m price e.ledger.openScope)
    (hlogs : e.ledger.logs = []) (meter : Meter) (intrinsic : Gas) :
    let simulated := e.applyChecked interpreter c m b meter false price intrinsic
    let applied := e.applyChecked interpreter c m b meter true price intrinsic
    simulated.1 = applied.1 ∧
      ((∀ fault, applied.1.result ≠ .error (.fault fault)) → simulated.2 = e) := by
  have hends := apply_ends ⟨e.ledger.openScope, meter, none⟩ price intrinsic hi
  have hnone : e.ledger.dropLogs = e.ledger := by rw [Ledger.dropLogs, ← hlogs]
  cases hrun : (Transition.apply interpreter ⟨e.headers, b, c.precompiles⟩ c m price intrinsic).run.run
      ⟨e.ledger.openScope, meter, none⟩ with
  | mk result p =>
    rcases result with (cause | fault) | receipt
    · have hback := rollback_of_reached (hends.of_run_error hrun)
      simp only [applyChecked, hrun, hback]
      exact ⟨trivial, fun _ => trivial⟩
    · simp only [applyChecked, hrun]
      exact ⟨trivial, fun hnot => absurd rfl (hnot fault)⟩
    · obtain ⟨⟨l, hc⟩, hb⟩ := close_of_finished (hends.of_run_ok hrun)
      simp only [applyChecked, hrun, if_true, hc, Bool.false_eq_true, if_false, hb, hnone]
      exact ⟨trivial, fun _ => trivial⟩

/-- A simulation of a message with an interpreter that keeps the scopes around it, from a ledger that
buffers no logs, gives the receipt or the error of applying the message, and sets the meter as that
does. Unless the engine itself meets a fault, the ledger is as before in all its parts, and applying
the message then comes to the same, with the same engine after it, as applying it at once. -/
theorem simulation_predicts (hi : interpreter.KeepsScopes) (hlogs : e.ledger.logs = []) (m : Message)
    (b : Block) (meter : Meter) :
    let simulated := e.apply interpreter m b meter false
    let applied := e.apply interpreter m b meter true
    simulated.1 = applied.1 ∧
      ((∀ fault, applied.1.result ≠ .error (.fault fault)) →
        simulated.2.ledger = e.ledger ∧ simulated.2.apply interpreter m b meter true = applied) := by
  have hagain := apply_tableFor e interpreter m b meter true
  obtain ⟨kept, hsnd⟩ := tableFor_snd e b.height
  rcases admits_or_refused e m b meter with ⟨c, price, intrinsic, ha⟩ | ⟨cause, -, hrefused⟩
  · have hrun := apply_of_admits ha interpreter
    rw [hsnd] at hagain
    simp only [hrun, hsnd] at hagain ⊢
    have hi := staysInside_of_keepsScopes (l := e.ledger.openScope) hi e.headers b c m price hlogs
    obtain ⟨hsame, hback⟩ :=
      applyChecked_simulated (e := { e with kept }) hi hlogs meter intrinsic
    refine ⟨hsame, fun hnot => ?_⟩
    rw [hback hnot]
    exact ⟨rfl, hagain⟩
  · rw [hsnd] at hagain
    simp only [hrefused, hsnd] at hagain ⊢
    exact ⟨trivial, fun _ => ⟨trivial, hagain⟩⟩

/-- Sends coins to an account that there is not yet. -/
def sending : Message := ⟨.ofLow 1, some (.ofLow 5), 7, [], 30000, .legacy 2, 0, []⟩

/-- The simulated message moves no coins, and moves them when it is applied after that. -/
theorem sending_after_simulation :
    Native.interpreter.KeepsScopes ∧ small.ledger.logs = [] ∧
      let simulated := small.apply Native.interpreter sending smallBlock (.ofLimit 100000) false
      (∃ receipt, simulated.1.result = .ok receipt ∧ receipt.gasUsed = 21000) ∧
        simulated.2.ledger = small.ledger ∧
        ((simulated.2.apply Native.interpreter sending smallBlock (.ofLimit 100000) true).2.ledger.balance
          (.ofLow 5) "aledger").toNat = 7 := by
  have hi := Native.interpreter_wellNested.keepsScopes
  obtain ⟨receipt, hok, hgas⟩ : ∃ receipt,
      (small.apply Native.interpreter sending smallBlock (.ofLimit 100000) true).1.result =
          .ok receipt ∧ receipt.gasUsed = 21000 := ⟨_, rfl, by decide +kernel⟩
  obtain ⟨hsame, hback⟩ :=
    simulation_predicts (e := small) hi rfl sending smallBlock (.ofLimit 100000)
  obtain ⟨hledger, hagain⟩ := hback fun fault hfault => by cases hok.symm.trans hfault
  refine ⟨hi, rfl, ⟨receipt, (congrArg Outcome.result hsame).trans hok, hgas⟩, hledger, ?_⟩
  rw [hagain]
  decide +kernel

end Engine

end EvmBank
