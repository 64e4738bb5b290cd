import EvmBank.Proofs.Engine.Outcomes
import EvmBank.Proofs.Ledger.Conservation

/-!
# Conservation of coins through messages

A message does nothing to the ledger but operations of it, whatever its interpreter is: what every
operation keeps is kept by every message (`Invariant.apply`). So a message does what some sequence of
operations does, and the coins of a ledger that messages are applied to are conserved at every point
of its history (`supply_is_conserved`).
-/

namespace EvmBank

open Fallible Transition

/-- Reports that coins could not be received because there would be too many. -/
def HostCall.Overflows : (call : HostCall) → call.Reply → Prop
  | .ledger (.transfer _ _ _ _), reply => reply = (.error .overflow : Except LedgerError Unit)
  | .precompile _ _ _ _ _ _, reply =>
    reply = (some (.error (.ledger .overflow)) : Option (Except PrecompileError PrecompileOutput))
  | _, _ => False

/-- All that a program asks from `l` on, and is replied, is as `P` says of the ledger that it is
asked on. -/
def Program.Along (h : Host) (P : Ledger → (call : HostCall) → call.Reply → Prop) {α : Type} :
    Program α → Ledger → Prop
  | .done _, _ => True
  | .ask call next, l =>
    P l call (h.answer l call).1 ∧
      (next (h.answer l call).1).Along h P (h.answer l call).2

theorem Program.Along.mono {h : Host} {P Q : Ledger → (call : HostCall) → call.Reply → Prop}
    {α : Type} {p : Program α} {l : Ledger} (hp : p.Along h P l)
    (hPQ : ∀ l call reply, P l call reply → Q l call reply) : p.Along h Q l := by
  induction p generalizing l with
  | done a => exact trivial
  | ask call next ih => exact ⟨hPQ _ _ _ hp.1, ih _ hp.2⟩

namespace Ledger

/-- A property that every operation of the ledger keeps, and that leaves no transfer to overflow. -/
structure Invariant (I : Ledger → Prop) : Prop where
  answer : ∀ {l : Ledger}, I l → ∀ call, I (l.answer call).2
  transfer_ne_overflow : ∀ {l : Ledger}, I l → ∀ source target d amount,
    l.transfer source target d amount ≠ .error .overflow

namespace Invariant

variable {I : Ledger → Prop} {l l' : Ledger} (hI : Invariant I)
include hI

/-! ## Programs -/

theorem transfer {source target : Address} {d : Denom} {amount : Amount} (h : I l)
    (ht : l.transfer source target d amount = .ok l') : I l' := by
  have hkept := hI.answer h (.transfer source target d amount)
  simp only [Ledger.answer, attempt, ht] at hkept
  exact hkept

theorem commit {scope : Nat} (h : I l) (hc : l.commit scope = .ok l') : I l' := by
  have hkept := hI.answer h (.commit scope)
  simp only [Ledger.answer, attempt, hc] at hkept
  exact hkept

theorem rollback {scope : Nat} (h : I l) (hr : l.rollback scope = .ok l') : I l' := by
  have hkept := hI.answer h (.rollback scope)
  simp only [Ledger.answer, attempt, hr] at hkept
  exact hkept

theorem keepGrant (h : I l) (owner spender : Address) (g : Grant) :
    I (l.keepGrant owner spender g) := by
  unfold Ledger.keepGrant
  split
  · exact hI.answer h (.revokeGrant owner spender)
  · exact hI.answer h (.setGrant g)

theorem performs {t : Token} {caller : Address} {time : Seconds} {r : TokenRequest} {out : Bytes}
    (h : I l) (hp : t.Performs caller time l r out l') : I l' := by
  cases hp with
  | transfer ht | transferOwn ht => exact hI.answer (hI.transfer h ht) (.addLog _)
  | transferGranted _ _ _ _ ht => exact hI.keepGrant (hI.answer (hI.transfer h ht) (.addLog _)) _ _ _
  | approveLive | increase | decrease => exact hI.answer (hI.keepGrant h _ _ _) (.addLog _)
  | approveNothing => exact hI.answer (hI.answer h (.revokeGrant _ _)) (.addLog _)
  | approveNew => exact hI.answer (hI.answer h (.setGrant _)) (.addLog _)
  | allowance | balanceOf | totalSupply => exact h

theorem dispatch (h : I l) (table : PrecompileTable) (a : Address) (call : PrecompileCall) :
    I (table.dispatch a call l).2 := by
  rcases table.dispatch_cases a call l with ⟨-, hd⟩ | ⟨t, -, ⟨_, hd⟩ | ⟨r, out, l', hd, hs⟩⟩
  · rwa [hd]
  · rwa [hd]
  · obtain ⟨ran, hperforms, hcommit⟩ := hs.performs
    rw [hd]
    exact hI.commit (hI.performs (hI.answer h .openScope) hperforms) hcommit

theorem host (h : I l) (host : Host) (call : HostCall) : I (host.answer l call).2 := by
  cases call with
  | ledger call => exact hI.answer h call
  | block | blockHash => exact h
  | precompile => exact hI.dispatch h _ _ _

theorem not_overflows (h : I l) (host : Host) (call : HostCall) :
    ¬call.Overflows (host.answer l call).1 := by
  cases call with
  | ledger call =>
    cases call with
    | transfer source target d amount =>
      intro ho
      have hne := hI.transfer_ne_overflow h source target d amount
      simp only [HostCall.Overflows, Host.answer, Ledger.answer, attempt] at ho
      split at ho
      · cases ho
      · rename_i cause ht
        cases ho
        exact hne ht
    | _ => exact id
  | precompile a input caller value gasLimit isStatic =>
    intro ho
    obtain ⟨t, hhands⟩ := PrecompileTable.handsOn_of_dispatch ho
    obtain ⟨source, target, amount, ht⟩ := hhands .overflow rfl
    exact hI.transfer_ne_overflow (hI.answer h .openScope) source target t.denom amount ht
  | block | blockHash => exact id

theorem run {α : Type} (h : I l) (host : Host) (p : Program α) : I (host.run p l).2 := by
  induction p generalizing l with
  | done a => exact h
  | ask call next ih => exact ih _ (hI.host h host call)

/-- A program sees the property at every point, and no overflow. -/
theorem along {α : Type} (h : I l) (host : Host) (p : Program α) :
    p.Along host (fun l call reply => I l ∧ ¬call.Overflows reply) l := by
  induction p generalizing l with
  | done a => exact trivial
  | ask call next ih => exact ⟨⟨h, hI.not_overflows h host call⟩, ih _ (hI.host h host call)⟩

/-! ## Messages -/

theorem bought {c : ExecutionConfig} {m : Message} {price : Amount} (h : I l)
    (hb : Bought c m price l l') : I l' := by
  obtain ⟨paid, hpaid, rfl⟩ := hb.paid
  exact hI.answer (hI.transfer h hpaid) (.setNonce m.sender _)

section
variable {ν : Type} {interpreter : Interpreter ν} {host : Host} {c : ExecutionConfig} {m : Message}
  {price : Amount} {available intrinsic : Gas} {p : Progress ν}

/-- The action keeps the property, whether it ends or stops, and does not stop at an overflow. -/
abbrev Keeps (I : Ledger → Prop) {α : Type} (x : Transition ν α) (p : Progress ν) : Prop :=
  Ends x (fun _ p' => I p'.ledger)
    (fun stop p' => I p'.ledger ∧ stop ≠ .rejected (.feeSettlement .overflow)) p

theorem buyGas_keeps (h : I p.ledger) : Keeps I (buyGas c m price) p := by
  refine buyGas_ends.mono ?_ ?_
  · rintro _ _ ⟨l, hbought, rfl⟩
    exact hI.bought h hbought
  · rintro _ _ ⟨rfl, error, rfl, ⟨rfl, -⟩ | ht⟩
    · exact ⟨h, by rintro ⟨⟩⟩
    · refine ⟨h, ?_⟩
      rintro ⟨⟩
      exact hI.transfer_ne_overflow h _ _ _ _ ht

theorem closeScope_keeps {scope : Nat} {keep : Bool} (h : I p.ledger) :
    Keeps I (closeScope scope keep) p := by
  rw [Keeps, ends_closeScope]
  split
  · rename_i l hclosed
    cases keep with
    | true => exact hI.commit h hclosed
    | false => exact hI.rollback h hclosed
  · exact ⟨h, by rintro ⟨⟩⟩

theorem execute_keeps (h : I p.ledger) : Keeps I (execute interpreter host c m available) p := by
  unfold execute
  split
  · have hran := hI.run (hI.answer h .openScope) host (interpreter c m available)
    simp only [Keeps, interpret, ends_bind, ends_ledger, ends_modify]
    split
    · exact ends_bind.mpr ((hI.closeScope_keeps hran).mono (fun _ _ hp => ⟨hp, by rintro ⟨⟩⟩)
        fun _ _ hp => hp)
    · exact (hI.closeScope_keeps hran).bind fun _ _ hp => hp
  · exact h

omit hI in
theorem settleGas_keeps {result : ExecutionResult} (h : I p.ledger) :
    Keeps I (settleGas c m intrinsic result) p := by
  refine settleGas_ends.mono ?_ ?_
  · rintro tally p' ⟨-, -, hledger⟩
    rwa [hledger]
  · rintro _ _ ⟨rfl, ⟨fault, rfl⟩ | rfl, -⟩
    · exact ⟨h, by rintro ⟨⟩⟩
    · exact ⟨h, by rintro ⟨⟩⟩

theorem returnGas_keeps {leftover : Gas} (h : I p.ledger) :
    Keeps I (returnGas c m price leftover) p := by
  refine returnGas_ends.mono ?_ ?_
  · rintro _ _ ⟨-, l, ⟨-, rfl⟩ | hpaid, rfl⟩
    · exact h
    · exact hI.transfer h hpaid
  · rintro _ _ ⟨rfl, ⟨-, rfl⟩ | ⟨error, rfl, ht⟩⟩
    · exact ⟨h, by rintro ⟨⟩⟩
    · refine ⟨h, ?_⟩
      rintro ⟨⟩
      exact hI.transfer_ne_overflow h _ _ _ _ ht

theorem transition_keeps (h : I p.ledger) :
    Keeps I (Transition.apply interpreter host c m price intrinsic) p := by
  refine (hI.buyGas_keeps h).bind fun _ p₁ h₁ => ?_
  cases m.gasLimit.sub? intrinsic with
  | none => exact ⟨h₁, by rintro ⟨⟩⟩
  | some available =>
    refine (hI.execute_keeps h₁).bind fun result p₂ h₂ => ?_
    refine (settleGas_keeps h₂).bind fun tally p₃ h₃ => ?_
    exact (hI.returnGas_keeps h₃).bind fun _ p₄ h₄ => hI.answer h₄ .takeLogs

theorem applyChecked {e : Engine} {b : Block} {meter : Meter} {keep : Bool} (h : I e.ledger) :
    let applied := e.applyChecked interpreter c m b meter keep price intrinsic
    I applied.2.ledger ∧ applied.1.result ≠ .error (.rejected (.feeSettlement .overflow)) := by
  have hends : Keeps I
      (Transition.apply interpreter ⟨e.headers, b, c.precompiles⟩ c m price intrinsic)
      ⟨e.ledger.openScope, meter, none⟩ := hI.transition_keeps (hI.answer h .openScope)
  cases hrun : (Transition.apply interpreter ⟨e.headers, b, c.precompiles⟩ c m price intrinsic).run.run
      ⟨e.ledger.openScope, meter, none⟩ with
  | mk result p =>
    simp only [Engine.applyChecked, hrun]
    cases result with
    | error stop =>
      obtain ⟨hp, hstop⟩ := hends.of_run_error hrun
      cases stop with
      | fault fault => exact ⟨hp, by rintro ⟨⟩⟩
      | rejected cause =>
        dsimp only
        split
        · rename_i l hclosed
          exact ⟨hI.rollback hp hclosed, fun he => hstop (Except.error.inj he)⟩
        · exact ⟨hp, by rintro ⟨⟩⟩
    | ok receipt =>
      have hp := hends.of_run_ok hrun
      dsimp only
      split
      · rename_i l hclosed
        refine ⟨?_, by rintro ⟨⟩⟩
        cases keep with
        | true => exact hI.commit hp hclosed
        | false => exact hI.rollback hp hclosed
      · exact ⟨hp, by rintro ⟨⟩⟩

end

/-- A message keeps what every operation keeps, and is not rejected because a balance overflows. -/
theorem apply {ν : Type} {e : Engine} (h : I e.ledger) (interpreter : Interpreter ν) (m : Message)
    (b : Block) (meter : Meter) (keep : Bool) :
    I (e.apply interpreter m b meter keep).2.ledger ∧
      (e.apply interpreter m b meter keep).1.result ≠
        .error (.rejected (.feeSettlement .overflow)) := by
  rcases Engine.apply_cases e interpreter m b meter keep with
    ⟨cause, kept, hearly, happly⟩ | ⟨c, price, intrinsic, kept, -, happly⟩
  · rw [happly]
    refine ⟨h, ?_⟩
    rintro ⟨⟩
    exact hearly
  · rw [happly]
    exact hI.applyChecked h

end Invariant

end Ledger

/-! ## Runs -/

/-- A step of a run: one of the ledger itself, or a message that an engine applies to it. -/
inductive BankStep where
  | ledger (step : LedgerStep)
  | message {ν : Type} (interpreter : Interpreter ν) (e : Engine) (m : Message) (b : Block)
    (meter : Meter) (keep : Bool)

namespace Ledger

def advance (l : Ledger) : BankStep → Ledger
  | .ledger step => (l.perform step).2
  | .message interpreter e m b meter keep =>
    ({ e with ledger := l }.apply interpreter m b meter keep).2.ledger

/-- The ledger after a run. -/
def atEnd (l : Ledger) (steps : List BankStep) : Ledger := steps.foldl advance l

/-- All coins that are issued in a run can be counted in the supply. -/
def MintsFit (l : Ledger) : List BankStep → Prop
  | [] => True
  | .ledger step :: rest => step.Fits l.books ∧ (l.perform step).2.MintsFit rest
  | step :: rest => (l.advance step).MintsFit rest

/-- A run in terms of the ledger alone: a message stands for operations that together do what it
does. -/
inductive Spells : Ledger → List BankStep → List LedgerStep → Prop
  | nil {l : Ledger} : Spells l [] []
  | ledger {l : Ledger} {step : LedgerStep} {rest : List BankStep} {history : List LedgerStep} :
      Spells (l.perform step).2 rest history → Spells l (.ledger step :: rest) (step :: history)
  | message {l : Ledger} {ν : Type} {interpreter : Interpreter ν} {e : Engine} {m : Message}
      {b : Block} {meter : Meter} {keep : Bool} {calls : List LedgerCall} {rest : List BankStep}
      {history : List LedgerStep} :
      l.after (calls.map .call) = l.advance (.message interpreter e m b meter keep) →
      Spells (l.advance (.message interpreter e m b meter keep)) rest history →
      Spells l (.message interpreter e m b meter keep :: rest) (calls.map .call ++ history)

/-- The accounts hold together what was issued, and no transfer overflows. -/
structure Balanced (l : Ledger) : Prop where
  conserved : l.books.Conserved
  transfer_ne_overflow : ∀ source target d amount,
    l.transfer source target d amount ≠ .error .overflow

variable {l : Ledger} {steps before : List BankStep} {history first : List LedgerStep}

theorem Sound.balanced (h : l.Sound) : l.Balanced := ⟨h.conserved, h.transfer_ne_overflow⟩

theorem Sound.invariant : Invariant Sound := ⟨Sound.answer, Sound.transfer_ne_overflow⟩

theorem after_append (l : Ledger) (steps rest : List LedgerStep) :
    l.after (steps ++ rest) = (l.after steps).after rest :=
  List.foldl_append

theorem Sound.after_calls (h : l.Sound) (calls : List LedgerCall) :
    (l.after (calls.map .call)).Sound := by
  induction calls generalizing l with
  | nil => exact h
  | cons call rest ih => exact ih (h.answer call)

/-- What a message does to a sound ledger is what some operations do. -/
theorem Sound.exists_calls (h : l.Sound) {ν : Type} (interpreter : Interpreter ν) (e : Engine)
    (m : Message) (b : Block) (meter : Meter) (keep : Bool) :
    ∃ calls : List LedgerCall,
      l.after (calls.map .call) = l.advance (.message interpreter e m b meter keep) := by
  have hI : Invariant fun l' => l'.Sound ∧ ∃ calls : List LedgerCall, l.after (calls.map .call) = l' := by
    refine ⟨?_, fun h => h.1.transfer_ne_overflow⟩
    rintro l' ⟨hs, calls, rfl⟩ call
    refine ⟨hs.answer call, calls ++ [call], ?_⟩
    rw [List.map_append, after_append]
    rfl
  exact (hI.apply (e := { e with ledger := l }) ⟨h, [], rfl⟩ interpreter m b meter keep).1.2

theorem Sound.advance (h : l.Sound) {step : BankStep}
    (hfits : ∀ own, step = .ledger own → own.Fits l.books) : (l.advance step).Sound := by
  cases step with
  | ledger own => exact h.perform (hfits own rfl)
  | message interpreter e m b meter keep =>
    exact (Sound.invariant.apply (e := { e with ledger := l }) h interpreter m b meter keep).1

theorem MintsFit.head {step : BankStep} (h : l.MintsFit (step :: steps)) :
    (∀ own, step = .ledger own → own.Fits l.books) ∧ (l.advance step).MintsFit steps := by
  cases step with
  | ledger own =>
    refine ⟨?_, h.2⟩
    rintro _ ⟨⟩
    exact h.1
  | message => exact ⟨by rintro _ ⟨⟩, h⟩

/-- A run keeps the ledger sound at every point. -/
theorem Sound.atEnd (h : l.Sound) (hfits : l.MintsFit steps) (hbefore : before <+: steps) :
    (l.atEnd before).Sound := by
  induction steps generalizing l before with
  | nil =>
    rw [List.prefix_nil.mp hbefore]
    exact h
  | cons step rest ih =>
    obtain ⟨hown, hrest⟩ := hfits.head
    cases before with
    | nil => exact h
    | cons step' before =>
      obtain ⟨rfl, hlater⟩ := List.cons_prefix_cons.mp hbefore
      have hsound : ((l.advance step').atEnd before).Sound := ih (h.advance hown) hrest hlater
      exact hsound

theorem Sound.exists_history (h : l.Sound) (hfits : l.MintsFit steps) :
    ∃ history, l.Spells steps history := by
  induction steps generalizing l with
  | nil => exact ⟨[], .nil⟩
  | cons step rest ih =>
    obtain ⟨hown, hrest⟩ := hfits.head
    obtain ⟨history, hspells⟩ := ih (h.advance hown) hrest
    cases step with
    | ledger own => exact ⟨own :: history, .ledger hspells⟩
    | message interpreter e m b meter keep =>
      obtain ⟨calls, hcalls⟩ := h.exists_calls interpreter e m b meter keep
      exact ⟨calls.map .call ++ history, .message hcalls hspells⟩

/-- The ledger is sound at every point of its history, also in the midst of a message. -/
theorem Spells.sound (hspells : l.Spells steps history) (h : l.Sound) (hfits : l.MintsFit steps)
    (hfirst : first <+: history) : (l.after first).Sound := by
  induction hspells generalizing first with
  | nil =>
    rw [List.prefix_nil.mp hfirst]
    exact h
  | ledger _ ih =>
    obtain ⟨hown, hrest⟩ := hfits
    cases first with
    | nil => exact h
    | cons step first =>
      obtain ⟨rfl, hlater⟩ := List.cons_prefix_cons.mp hfirst
      exact ih (h.perform hown) hrest hlater
  | message hcalls _ ih =>
    obtain ⟨later, hlater⟩ := hfirst
    rcases List.append_eq_append_iff.mp hlater with ⟨inner, hinner, -⟩ | ⟨inner, rfl, hinner⟩
    · obtain ⟨calls, -, -, rfl, -⟩ := List.map_eq_append_iff.mp hinner
      exact h.after_calls calls
    · rw [after_append, hcalls]
      exact ih (hcalls ▸ h.after_calls _) hfits ⟨later, hinner.symm⟩

/-! ## The supply of a run -/

/-- At every point of a run from the empty ledger the accounts hold together, in each denomination,
what was issued, and no transfer overflows. The run has a history in terms of the ledger alone, and
in every such history the same holds at every point, and a supply is changed only by issuing coins
and by a rollback of a scope inside which coins were issued. No message of the run meets an overflow:
neither when gas is bought or paid back, nor in its execution, which finds the ledger balanced
whenever it asks for something. -/
theorem supply_is_conserved (hfits : Ledger.empty.MintsFit steps) :
    (∀ before, before <+: steps → (Ledger.empty.atEnd before).Balanced) ∧
      (∃ history, Ledger.empty.Spells steps history) ∧
      (∀ history, Ledger.empty.Spells steps history →
        (∀ first, first <+: history → (Ledger.empty.after first).Balanced) ∧
        ∀ first step d, first ++ [step] <+: history →
          (Ledger.empty.after (first ++ [step])).supply d ≠ (Ledger.empty.after first).supply d →
            (∃ a amount, step = .mint a d amount) ∨
              ∃ scope, step = .call (.rollback scope) ∧ MintedInside first scope d) ∧
      ∀ {ν : Type} (before : List BankStep) (interpreter : Interpreter ν) (e : Engine) (m : Message)
        (b : Block) (meter : Meter) (keep : Bool),
        before ++ [.message interpreter e m b meter keep] <+: steps →
          let e := { e with ledger := Ledger.empty.atEnd before }
          (e.apply interpreter m b meter keep).1.result ≠
              .error (.rejected (.feeSettlement .overflow)) ∧
            ∀ c price intrinsic available bought, e.Admits m b meter c price intrinsic →
              Bought c m price e.ledger.openScope bought →
              m.gasLimit.sub? intrinsic = some available →
                (interpreter c m available).Along ⟨e.headers, b, c.precompiles⟩
                  (fun l call reply => l.Balanced ∧ ¬call.Overflows reply) bought.openScope := by
  refine ⟨fun before hbefore => (Sound.empty.atEnd hfits hbefore).balanced,
    Sound.empty.exists_history hfits, ?_, ?_⟩
  · intro history hspells
    refine ⟨fun first hfirst => (hspells.sound Sound.empty hfits hfirst).balanced, ?_⟩
    intro first step d _ hchange
    rw [after_append] at hchange
    exact supply_change hchange
  · intro ν before interpreter e m b meter keep hmessage
    have hsound : (Ledger.empty.atEnd before).Sound :=
      Sound.empty.atEnd hfits ((List.prefix_append _ _).trans hmessage)
    refine ⟨(Sound.invariant.apply (e := { e with ledger := Ledger.empty.atEnd before }) hsound
      interpreter m b meter keep).2, ?_⟩
    intro c price intrinsic available bought _ hbought _
    have hstart := Sound.invariant.bought (hsound.answer .openScope) hbought
    refine (Sound.invariant.along (hstart.answer .openScope) _ _).mono ?_
    exact fun l call reply hpoint => ⟨hpoint.1.balanced, hpoint.2⟩

/-- Coins are issued outside and inside of a scope that is rolled back, and then spent by a
message. -/
def smallRun : List BankStep :=
  [.ledger (.mint (.ofLow 1) "aledger" 1000000),
    .ledger (.openAccount (.ofLow 2)),
    .ledger (.call .openScope),
    .ledger (.mint (.ofLow 3) "aledger" 500),
    .ledger (.call (.rollback 0)),
    .message Native.interpreter Engine.small
      ⟨.ofLow 1, some (.ofLow 5), 7, [], 30000, .legacy 2, 0, []⟩ Engine.smallBlock
      (.ofLimit 100000) true]

/-- The collector has been paid, and all accounts together hold the coins that are left. -/
theorem smallRun_is_conserved :
    Ledger.empty.MintsFit smallRun ∧
      ((Ledger.empty.atEnd smallRun).balance (.ofLow 2) "aledger").toNat = 42000 ∧
      (Ledger.empty.atEnd smallRun).books.held "aledger" = 1000000 := by
  have hfits : Ledger.empty.MintsFit smallRun := ⟨rfl, trivial, trivial, rfl, trivial, trivial⟩
  obtain ⟨hbalanced, -⟩ := supply_is_conserved hfits
  have hsupply : ((Ledger.empty.atEnd smallRun).supply "aledger").toNat = 1000000 := by
    decide +kernel
  refine ⟨hfits, by decide +kernel, ?_⟩
  exact ((hbalanced smallRun List.prefix_rfl).conserved "aledger").trans hsupply

end Ledger

end EvmBank
