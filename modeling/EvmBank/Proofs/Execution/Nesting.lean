import EvmBank.Execution.Native
import EvmBank.Proofs.Token.Calls

/-!
# Programs and the scopes around them

A program is well nested on a ledger if it closes only scopes that it opened, leaves none of them
open, and does not empty the buffer of logs. All it does then happens inside the scopes that were
open before (`WellNested.inside`), so that its own scope can be closed either way. Programs that
neither open nor close scopes are well nested whatever the host replies (`Asks.wellNested`), and
the execution without a virtual machine is one of them. Of a program that may leave scopes open it is
only said below which depth it closes none (`LeavesOpen`).
-/

namespace EvmBank

open Ledger

namespace Program

variable {α β : Type}

/-- From `l` on, there are never fewer than `floor` open scopes, and just as many at the end; and
the buffer of logs is not emptied. -/
def WellNested (h : Host) (floor : Nat) : Program α → Ledger → Prop
  | .done _, l => l.depth = floor
  | .ask call next, l =>
    call ≠ .ledger .takeLogs ∧ floor ≤ (h.answer l call).2.depth ∧
      (next (h.answer l call).1).WellNested h floor (h.answer l call).2

/-- Well nested, but for the logs: all that is asked leaves no fewer than `floor` scopes open, and
the last just as many. -/
def KeepsScopes (h : Host) (floor : Nat) : Program α → Ledger → Prop
  | .done _, l => l.depth = floor
  | .ask call next, l =>
    floor ≤ (h.answer l call).2.depth ∧
      (next (h.answer l call).1).KeepsScopes h floor (h.answer l call).2

/-- All that is asked leaves no fewer than `floor` scopes open; nothing is said of how many there are
at the end. -/
def LeavesOpen (h : Host) (floor : Nat) : Program α → Ledger → Prop
  | .done _, _ => True
  | .ask call next, l =>
    floor ≤ (h.answer l call).2.depth ∧
      (next (h.answer l call).1).LeavesOpen h floor (h.answer l call).2

/-- All that is asked, whatever was replied before, is as `P` says. -/
def Asks (P : HostCall → Prop) : Program α → Prop
  | .done _ => True
  | .ask call next => P call ∧ ∀ reply, (next reply).Asks P

end Program

/-! ## What a call does to the scopes -/

namespace Host

variable {h : Host} {base l : Ledger}

theorem answer_within (hw : base.Within l) (call : HostCall)
    (hd : base.depth < (h.answer l call).2.depth) : base.Within (h.answer l call).2 := by
  cases call with
  | ledger call => exact hw.answer call hd
  | block | blockHash => exact hw
  | precompile => exact PrecompileTable.dispatch_within hw

theorem answer_keepsLogs (hk : base.KeepsLogs l) (call : HostCall) (hcall : call ≠ .ledger .takeLogs)
    (hd : base.depth < (h.answer l call).2.depth) : base.KeepsLogs (h.answer l call).2 := by
  cases call with
  | ledger call => exact hk.answer call (fun he => hcall (congrArg HostCall.ledger he)) hd
  | block | blockHash => exact hk
  | precompile => exact PrecompileTable.dispatch_keepsLogs hk

end Host

/-- Neither opens nor closes a scope, and does not empty the buffer of logs. -/
def HostCall.IsLevel : HostCall → Prop
  | .ledger .openScope | .ledger (.commit _) | .ledger (.rollback _) | .ledger .takeLogs => False
  | _ => True

theorem HostCall.IsLevel.ne_takeLogs {call : HostCall} (hc : call.IsLevel) :
    call ≠ .ledger .takeLogs := by
  rintro rfl
  exact hc

theorem HostCall.IsLevel.depth_eq {call : HostCall} (hc : call.IsLevel) (h : Host) (l : Ledger) :
    (h.answer l call).2.depth = l.depth := by
  cases call with
  | ledger call =>
    rcases answer_cases l call with hg | rfl | rfl | ⟨_, rfl, -⟩ | ⟨_, rfl, -⟩
    · exact hg.depth_eq
    all_goals exact hc.elim
  | block | blockHash => rfl
  | precompile a input caller value gasLimit isStatic =>
    exact PrecompileTable.dispatch_depth h.precompiles a _ l

namespace Program

variable {α β : Type} {h : Host} {base l : Ledger}

/-! ## Well-nested programs -/

theorem WellNested.run {floor : Nat} {p : Program α} (hp : p.WellNested h floor l)
    (hw : base.Within l) (hk : base.KeepsLogs l) (hf : base.depth < floor) :
    base.Within (h.run p l).2 ∧ base.KeepsLogs (h.run p l).2 ∧ (h.run p l).2.depth = floor := by
  induction p generalizing l with
  | done a => exact ⟨hw, hk, hp⟩
  | ask call next ih =>
    obtain ⟨hcall, hle, hnext⟩ := hp
    have hd := Nat.lt_of_lt_of_le hf hle
    exact ih _ hnext (Host.answer_within hw call hd) (Host.answer_keepsLogs hk call hcall hd)

theorem WellNested.keepsScopes {floor : Nat} {p : Program α} (hp : p.WellNested h floor l) :
    p.KeepsScopes h floor l := by
  induction p generalizing l with
  | done a => exact hp
  | ask call next ih => exact ⟨hp.2.1, ih _ hp.2.2⟩

/-- A scope below those that a program leaves open can still be undone. -/
theorem LeavesOpen.run {floor : Nat} {p : Program α} (hp : p.LeavesOpen h floor l)
    (hw : base.Within l) (hf : base.depth < floor) : base.Within (h.run p l).2 := by
  induction p generalizing l with
  | done a => exact hw
  | ask call next ih =>
    obtain ⟨hle, hnext⟩ := hp
    exact ih _ hnext (Host.answer_within hw call (Nat.lt_of_lt_of_le hf hle))

theorem keepsScopes_iff {floor : Nat} {p : Program α} :
    p.KeepsScopes h floor l ↔ p.LeavesOpen h floor l ∧ (h.run p l).2.depth = floor := by
  induction p generalizing l with
  | done a => exact (and_iff_right trivial).symm
  | ask call next ih => exact (and_congr_right fun _ => ih _).trans and_assoc.symm

/-- The scopes around a program that keeps them can still be closed. -/
theorem KeepsScopes.run {floor : Nat} {p : Program α} (hp : p.KeepsScopes h floor l)
    (hw : base.Within l) (hf : base.depth < floor) :
    base.Within (h.run p l).2 ∧ (h.run p l).2.depth = floor :=
  have ⟨hopen, hd⟩ := keepsScopes_iff.mp hp
  ⟨hopen.run hw hf, hd⟩

/-- All that a program does in a scope of its own stays inside it. -/
theorem WellNested.inside {p : Program α} (hp : p.WellNested h l.openScope.depth l.openScope) :
    l.Inside (h.run p l.openScope).2 := by
  obtain ⟨hw, hk, hd⟩ := hp.run (.openScope l) (.openScope l) (Nat.lt_succ_self l.depth)
  exact ⟨hw, hk, hd⟩

/-- So does a program that keeps the scopes, where no log was buffered before it. -/
theorem KeepsScopes.inside {p : Program α} (hp : p.KeepsScopes h l.openScope.depth l.openScope)
    (hlogs : l.logs = []) : l.Inside (h.run p l.openScope).2 := by
  obtain ⟨hw, hd⟩ := hp.run (.openScope l) (Nat.lt_succ_self l.depth)
  exact ⟨hw, .of_nil hw hlogs, hd⟩

section
variable {P : HostCall → Prop}

theorem asks_pure {a : α} : (pure a : Program α).Asks P := trivial

theorem asks_ledger {call : LedgerCall} {f : call.Reply → Program β} :
    (Program.ledger call >>= f).Asks P ↔ P (.ledger call) ∧ ∀ reply, (f reply).Asks P := Iff.rfl

theorem asks_perform {call : HostCall} {f : call.Reply → Program β} :
    (perform call >>= f).Asks P ↔ P call ∧ ∀ reply, (f reply).Asks P := Iff.rfl

theorem Asks.bind {p : Program α} {f : α → Program β} (hp : p.Asks P)
    (hf : ∀ a, (f a).Asks P) : (p >>= f).Asks P := by
  induction p with
  | done a => exact hf a
  | ask call next ih => exact ⟨hp.1, fun reply => ih reply (hp.2 reply)⟩

end

/-- A program that asks nothing about scopes is well nested on every ledger. -/
theorem Asks.wellNested {p : Program α} (hp : p.Asks HostCall.IsLevel) (h : Host) (l : Ledger) :
    p.WellNested h l.depth l := by
  induction p generalizing l with
  | done a => exact rfl
  | ask call next ih =>
    obtain ⟨hcall, hnext⟩ := hp
    have hd := hcall.depth_eq h l
    refine ⟨hcall.ne_takeLogs, Nat.le_of_eq hd.symm, ?_⟩
    rw [← hd]
    exact ih _ (hnext _) _

end Program

/-- The programs of an interpreter are well nested, whatever they are run for and on. -/
def Interpreter.WellNested {ν : Type} (interpreter : Interpreter ν) : Prop :=
  ∀ (c : ExecutionConfig) (m : Message) (gas : Gas) (headers : HeaderStore) (b : Block) (l : Ledger),
    (interpreter c m gas).WellNested ⟨headers, b, c.precompiles⟩ l.depth l

/-- The programs of an interpreter keep the scopes around them, whatever they are run for and on. -/
def Interpreter.KeepsScopes {ν : Type} (interpreter : Interpreter ν) : Prop :=
  ∀ (c : ExecutionConfig) (m : Message) (gas : Gas) (headers : HeaderStore) (b : Block) (l : Ledger),
    (interpreter c m gas).KeepsScopes ⟨headers, b, c.precompiles⟩ l.depth l

theorem Interpreter.WellNested.keepsScopes {ν : Type} {interpreter : Interpreter ν}
    (hi : interpreter.WellNested) : interpreter.KeepsScopes :=
  fun c m gas headers b l => (hi c m gas headers b l).keepsScopes

/-! ## Execution without a virtual machine -/

namespace Native

open Program HostCall

theorem moveValue_isLevel (c : ExecutionConfig) (source target : Address) (value : Amount) :
    (moveValue c source target value).Asks IsLevel := by
  unfold moveValue
  split
  · exact asks_pure
  · refine asks_ledger.mpr ⟨trivial, fun reply => ?_⟩
    cases reply <;> exact asks_pure

theorem call_isLevel (c : ExecutionConfig) (m : Message) (target : Address) (gas : Gas) :
    (call c m target gas).Asks IsLevel := by
  refine asks_perform.mpr ⟨trivial, fun reply => ?_⟩
  cases reply with
  | some result => exact asks_pure
  | none =>
    refine asks_ledger.mpr ⟨trivial, fun code => ?_⟩
    split
    · exact asks_pure
    refine (moveValue_isLevel c m.sender target m.value).bind fun moved => ?_
    cases moved <;> exact asks_pure

theorem create_isLevel (c : ExecutionConfig) (m : Message) (gas : Gas) :
    (create c m gas).Asks IsLevel := by
  refine asks_ledger.mpr ⟨trivial, fun code => ?_⟩
  split
  · exact asks_pure
  refine asks_ledger.mpr ⟨trivial, fun nonce => ?_⟩
  split
  · exact asks_pure
  refine (moveValue_isLevel c m.sender _ m.value).bind fun moved => ?_
  split
  · exact asks_pure
  split
  · exact asks_pure
  dsimp only
  split
  · exact asks_pure
  exact asks_ledger.mpr ⟨trivial, fun _ => asks_ledger.mpr ⟨trivial, fun _ => asks_pure⟩⟩

theorem interpreter_wellNested : interpreter.WellNested := by
  intro c m gas headers b l
  refine (Asks.bind ?_ fun _ => asks_pure).wellNested _ l
  unfold execute
  split
  · exact call_isLevel c m _ gas
  · exact create_isLevel c m gas

end Native

end EvmBank
