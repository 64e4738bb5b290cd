import EvmBank.Proofs.Ledger.Snapshots

/-!
# Logs and rollbacks

A scope remembers how many logs were buffered when it was opened, and rolling it back cuts the buffer
to so many. Around steps that leave the scope open (`Encloses`) the rollback therefore gives the ledger
from before, logs included, as long as the buffer is not emptied (`rollback_enclosed`). Emptying it is
not undone: the logs from before are lost, and of those that were emitted afterwards as many stay
(`drained_scope_keeps_log`).
-/

namespace EvmBank.Ledger

variable {base l : Ledger}

/-- No step closes the scope that is named `scope`, and at the end no other is open inside it, so that
it can be closed itself. -/
def Encloses (scope : Nat) : List LedgerStep → Ledger → Prop
  | [], l => l.depth = scope + 1
  | step :: rest, l => scope < (l.perform step).2.depth ∧ Encloses scope rest (l.perform step).2

/-- Decided by performing the steps. -/
instance Encloses.decidable (scope : Nat) :
    (steps : List LedgerStep) → (l : Ledger) → Decidable (Encloses scope steps l)
  | [], l => inferInstanceAs (Decidable (l.depth = scope + 1))
  | step :: rest, l =>
    have := Encloses.decidable scope rest (l.perform step).2
    inferInstanceAs (Decidable (_ ∧ _))

/-! ## Steps inside a scope -/

theorem Within.perform (h : base.Within l) (step : LedgerStep)
    (hd : base.depth < (l.perform step).2.depth) : base.Within (l.perform step).2 := by
  cases step with
  | mint a d amount => exact h.grows (Grows.refl.mint a d amount)
  | openAccount a => exact h.grows (Grows.refl.openAccount a)
  | call c => exact h.answer c hd

theorem KeepsLogs.perform (h : base.KeepsLogs l) {step : LedgerStep} (hstep : step ≠ .call .takeLogs)
    (hd : base.depth < (l.perform step).2.depth) : base.KeepsLogs (l.perform step).2 := by
  cases step with
  | mint a d amount => exact h.grows (Grows.refl.mint a d amount)
  | openAccount a => exact h.grows (Grows.refl.openAccount a)
  | call c => exact h.answer c (fun hc => hstep (congrArg LedgerStep.call hc)) hd

/-- The journal leads back over any steps that leave the scope open. -/
theorem Encloses.within {steps : List LedgerStep} (h : Encloses base.depth steps l)
    (hw : base.Within l) :
    base.Within (l.after steps) ∧ (l.after steps).depth = base.depth + 1 := by
  induction steps generalizing l with
  | nil => exact ⟨hw, h⟩
  | cons step rest ih => exact ih h.2 (hw.perform step h.1)

theorem Encloses.keepsLogs {steps : List LedgerStep} (h : Encloses base.depth steps l)
    (hdrain : .call .takeLogs ∉ steps) (hk : base.KeepsLogs l) : base.KeepsLogs (l.after steps) := by
  induction steps generalizing l with
  | nil => exact hk
  | cons step rest ih =>
    have hstep : step ≠ .call .takeLogs := fun he => hdrain (he ▸ List.mem_cons_self)
    exact ih h.2 (fun hmem => hdrain (List.mem_cons_of_mem _ hmem)) (hk.perform hstep h.1)

/-! ## The end of the scope -/

/-- The rollback of a scope gives the ledger that it was opened on, with the logs, whatever was done
inside it, if the buffer was not emptied there or nothing was buffered before. In any case all but
the logs is as before, and of the buffer no more is left than there was. -/
theorem rollback_enclosed {steps : List LedgerStep} (h : Encloses l.depth steps l.openScope) :
    ((.call .takeLogs ∉ steps ∨ l.logs = []) →
      (l.openScope.after steps).rollback l.depth = .ok l) ∧
    (l.openScope.after steps).rollback l.depth =
      .ok { l with logs := (l.openScope.after steps).logs.take l.logs.length } := by
  obtain ⟨hw, hd⟩ := h.within (.openScope l)
  refine ⟨fun hkept => ?_, hw.rollback_self hd⟩
  have hk : l.KeepsLogs (l.openScope.after steps) := by
    rcases hkept with hdrain | hlogs
    · exact h.keepsLogs hdrain (.openScope l)
    · exact .of_nil hw hlogs
  exact Inside.rollback_eq ⟨hw, hk, hd⟩

/-- A ledger on which a log is buffered. -/
def noted : Ledger := empty.addLog ⟨.ofLow 4, [], []⟩

/-- Coins are issued and logs are emitted in a scope, of which some go with a scope inside it, and
some are handed on to it. -/
def busy : List LedgerStep :=
  [.call (.addLog ⟨.ofLow 5, [], []⟩), .call .openScope, .mint (.ofLow 1) "aledger" 7,
    .call (.addLog ⟨.ofLow 6, [], []⟩), .call (.rollback 1), .call .openScope,
    .call (.addLog ⟨.ofLow 7, [], []⟩), .call (.setNonce (.ofLow 1) 3), .call (.commit 1)]

/-- All of it goes with the scope itself, and the log from before stays. -/
theorem busy_scope_rolled_back :
    Encloses noted.depth busy noted.openScope ∧
      (noted.openScope.after busy).logs =
        noted.logs ++ [⟨.ofLow 5, [], []⟩, ⟨.ofLow 7, [], []⟩] ∧
      (noted.openScope.after busy).rollback noted.depth = .ok noted := by
  have hencloses : Encloses noted.depth busy noted.openScope := by decide +kernel
  exact ⟨hencloses, by decide +kernel, (rollback_enclosed hencloses).1 (.inl (by simp [busy]))⟩

/-- The buffer is emptied in a scope, and a log is emitted. -/
def drain : List LedgerStep := [.call .takeLogs, .call (.addLog ⟨.ofLow 5, [], []⟩)]

/-- That is not undone when the scope is rolled back: the log from before is lost, and in its place
stands the one that was emitted inside. -/
theorem drained_scope_keeps_log :
    Encloses noted.depth drain noted.openScope ∧
      ∃ l, (noted.openScope.after drain).rollback noted.depth = .ok l ∧
        l.logs = [⟨.ofLow 5, [], []⟩] ∧ l.logs ≠ noted.logs :=
  ⟨by decide +kernel, _, rfl, by decide +kernel, by decide +kernel⟩

end EvmBank.Ledger
