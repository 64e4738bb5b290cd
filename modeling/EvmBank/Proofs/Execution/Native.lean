import EvmBank.Execution.Native
import EvmBank.Proofs.Token.Calls

/-!
# Executions without a virtual machine

What an execution comes to is one of eight things (`run_comes`), of which five are failures. So it
reports no more gas than it was given (`Comes.gasUsed_le`), and one that does not fail has done one of
three things (`run_does`): it had a request served by a token, sent the value of the message to an
account, or deployed a contract.
-/

namespace EvmBank

/-! ## Runs of programs -/

namespace Host

variable {α β : Type} {h : Host} {l : Ledger}

/-- Run on `l`, a program comes to a result and a ledger with `Q`. -/
def Yields (h : Host) (p : Program α) (Q : α → Ledger → Prop) (l : Ledger) : Prop :=
  Q (h.run p l).1 (h.run p l).2

theorem yields_ledger {call : LedgerCall} {f : call.Reply → Program β} {Q : β → Ledger → Prop} :
    h.Yields (Program.ledger call >>= f) Q l ↔
      h.Yields (f (l.answer call).1) Q (l.answer call).2 := Iff.rfl

theorem yields_perform {call : HostCall} {f : call.Reply → Program β} {Q : β → Ledger → Prop} :
    h.Yields (Program.perform call >>= f) Q l ↔
      h.Yields (f (h.answer l call).1) Q (h.answer l call).2 := Iff.rfl

theorem yields_bind {p : Program α} {f : α → Program β} {Q : β → Ledger → Prop} :
    h.Yields (p >>= f) Q l ↔ h.Yields p (fun a => h.Yields (f a) Q) l := by
  induction p generalizing l with
  | done a => exact Iff.rfl
  | ask call next ih => exact ih _

theorem Yields.mono {p : Program α} {Q Q' : α → Ledger → Prop} (hp : h.Yields p Q l)
    (hQ : ∀ a l', Q a l' → Q' a l') : h.Yields p Q' l :=
  hQ _ _ hp

end Host

namespace Native

open Host

variable {h : Host} {c : ExecutionConfig} {m : Message} {gas : Gas} {l l' : Ledger}

/-- The value of a message, if there is any, was moved to an account. -/
def Sends (c : ExecutionConfig) (m : Message) (target : Address) (l l' : Ledger) : Prop :=
  m.value = 0 ∧ l' = l ∨ l.transfer m.sender target c.evmDenom m.value = .ok l'

theorem moveValue_yields (target : Address) (l : Ledger) :
    h.Yields (moveValue c m.sender target m.value)
      (fun moved l' => if moved then Sends c m target l l'
        else l' = l ∧ ∃ error, l.transfer m.sender target c.evmDenom m.value = .error error) l := by
  unfold moveValue
  split
  · rename_i hz
    exact .inl ⟨Quantity.isZero_iff.mp hz, rfl⟩
  · rw [yields_ledger]
    simp only [Ledger.answer, Ledger.attempt]
    cases ht : l.transfer m.sender target c.evmDenom m.value with
    | ok moved => exact .inr ht
    | error error => exact ⟨rfl, error, rfl⟩

/-- What an execution comes to from `l`, one rule for each way. -/
inductive Comes (h : Host) (c : ExecutionConfig) (m : Message) (gas : Gas) (l : Ledger) :
    ExecutionResult → Ledger → Prop
  | served {target : Address} {t : Token} {r : TokenRequest} {out : PrecompileOutput} {l' : Ledger} :
      m.recipient = some target → h.precompiles.lookup target = some t →
      t.Served ⟨m.data, m.sender, m.value, gas, false, h.block.time⟩ l r out l' →
      Comes h c m gas l (.success out.gasUsed out.output) l'
  | refused {target : Address} {t : Token} {cause : PrecompileError} :
      m.recipient = some target → h.precompiles.lookup target = some t →
      Comes h c m gas l (ofPrecompile gas (.error cause)) l
  | unexecutable {target : Address} : m.recipient = some target →
      h.precompiles.lookup target = none → l.code target ≠ [] →
      Comes h c m gas l (fail 0 .codeExecution) l
  | unpaid {target : Address} {error : LedgerError} :
      l.transfer m.sender target c.evmDenom m.value = .error error →
      Comes h c m gas l (fail 0 .insufficientBalance) l
  | sent {target : Address} {l' : Ledger} : m.recipient = some target →
      h.precompiles.lookup target = none → Sends c m target l l' →
      Comes h c m gas l (.success 0 []) l'
  | collided : m.recipient = none → ¬l.books.Vacant (.ofCreation m.sender m.nonce) →
      Comes h c m gas l (fail gas .addressCollision) l
  /-- The value was moved before it is found out that the code cannot be kept. -/
  | undeployed {l' : Ledger} {reason : Failure} : m.recipient = none →
      Sends c m (.ofCreation m.sender m.nonce) l l' →
      reason = .codeTooLarge ∨ reason = .outOfGas → Comes h c m gas l (fail gas reason) l'
  | deployed {l' : Ledger} : m.recipient = none → l.books.Vacant (.ofCreation m.sender m.nonce) →
      Sends c m (.ofCreation m.sender m.nonce) l l' → codeDepositGas m.data.length ≤ gas →
      Comes h c m gas l
        { ExecutionResult.success (codeDepositGas m.data.length) [] with
          created := some (.ofCreation m.sender m.nonce) }
        ((l'.setNonce (.ofCreation m.sender m.nonce) 1).setCode (.ofCreation m.sender m.nonce) m.data)

theorem call_yields {target : Address} (hrecipient : m.recipient = some target) :
    h.Yields (call c m target gas) (Comes h c m gas l) l := by
  unfold call
  rw [yields_perform]
  simp only [Host.answer]
  rcases PrecompileTable.dispatch_cases h.precompiles target
    ⟨m.data, m.sender, m.value, gas, false, h.block.time⟩ l with
    ⟨hnone, hd⟩ | ⟨t, ht, ⟨cause, hd⟩ | ⟨r, out, l', hd, hs⟩⟩
  · rw [hd, yields_ledger]
    split
    · rename_i hcode
      exact .unexecutable hrecipient hnone fun hempty => by simp [Ledger.answer, hempty] at hcode
    · refine yields_bind.mpr ((moveValue_yields target l).mono fun moved l' hm => ?_)
      cases moved with
      | false =>
        obtain ⟨rfl, error, herror⟩ := hm
        exact .unpaid herror
      | true => exact .sent hrecipient hnone hm
  · rw [hd]
    exact .refused hrecipient ht
  · rw [hd]
    exact .served hrecipient ht hs

theorem create_yields (hrecipient : m.recipient = none) :
    h.Yields (create c m gas) (Comes h c m gas l) l := by
  unfold create
  dsimp only
  rw [yields_ledger]
  split
  · rename_i hcode
    exact .collided hrecipient fun hvacant => by
      simp [Ledger.answer, Ledger.code, hvacant.code] at hcode
  rename_i hcode
  rw [yields_ledger]
  split
  · rename_i hnonce
    refine .collided hrecipient fun hvacant => ?_
    have hnonce : (!(l.nonce (.ofCreation m.sender m.nonce)).isZero) = true := hnonce
    rw [Ledger.nonce, hvacant.nonce] at hnonce
    exact absurd hnonce (by decide)
  rename_i hnonce
  have hnonce : ¬(!(l.nonce (.ofCreation m.sender m.nonce)).isZero) = true := hnonce
  have hvacant : l.books.Vacant (.ofCreation m.sender m.nonce) :=
    ⟨by simpa [Ledger.answer, Ledger.code] using hcode,
      Quantity.isZero_iff.mp (by simpa [Ledger.nonce] using hnonce)⟩
  refine yields_bind.mpr ((moveValue_yields _ _).mono fun moved l' hm => ?_)
  cases moved with
  | false =>
    obtain ⟨rfl, error, herror⟩ := hm
    exact .unpaid herror
  | true =>
    rw [if_neg (by decide)]
    split
    · exact .undeployed hrecipient hm (.inl rfl)
    split
    · exact .undeployed hrecipient hm (.inr rfl)
    rename_i hgas
    exact .deployed hrecipient hvacant hm (Nat.le_of_not_lt hgas)

theorem run_comes {result : ExecutionResult} {notes : Unit}
    (hrun : h.run (interpreter c m gas) l = ((result, notes), l')) :
    Comes h c m gas l result l' := by
  have hexecute : h.Yields (execute c m gas) (Comes h c m gas l) l := by
    unfold execute
    cases hrecipient : m.recipient with
    | some target => exact call_yields hrecipient
    | none => exact create_yields hrecipient
  have hyields : h.Yields (interpreter c m gas) (fun a l' => Comes h c m gas l a.1 l') l :=
    yields_bind.mpr (hexecute.mono fun _ _ hc => hc)
  unfold Host.Yields at hyields
  rwa [hrun] at hyields

/-! ## Failures and gas -/

theorem reverted_ofPrecompile (cause : PrecompileError) :
    (ofPrecompile gas (.error cause)).reverted = true := by
  unfold ofPrecompile
  dsimp only
  split <;> rfl

theorem gasUsed_ofPrecompile (cause : PrecompileError) :
    (ofPrecompile gas (.error cause)).gasUsed = gas := by
  unfold ofPrecompile
  dsimp only
  split <;> rfl

theorem vmError_ofPrecompile (cause : PrecompileError) :
    (ofPrecompile gas (.error cause)).vmError = some cause.message := by
  unfold ofPrecompile
  dsimp only
  split <;> rfl

/-- An execution reports no more gas than it was given. -/
theorem Comes.gasUsed_le {result : ExecutionResult} (hc : Comes h c m gas l result l') :
    result.gasUsed ≤ gas := by
  cases hc with
  | served _ _ hs => exact hs.admits.paid
  | refused => exact Nat.le_of_eq (congrArg Quantity.toNat (gasUsed_ofPrecompile _))
  | unexecutable | unpaid | sent => exact Nat.zero_le _
  | collided | undeployed => exact Nat.le_refl _
  | deployed _ _ _ hgas => exact hgas

/-- What an execution that does not fail does to the ledger. -/
inductive Does (h : Host) (c : ExecutionConfig) (m : Message) (gas : Gas) (l : Ledger) : Ledger → Prop
  | calls {target : Address} {t : Token} {r : TokenRequest} {out : PrecompileOutput} {l' : Ledger} :
      m.recipient = some target → h.precompiles.lookup target = some t →
      t.Served ⟨m.data, m.sender, m.value, gas, false, h.block.time⟩ l r out l' → Does h c m gas l l'
  | sends {target : Address} {l' : Ledger} : m.recipient = some target → Sends c m target l l' →
      Does h c m gas l l'
  | deploys {sent : Ledger} : m.recipient = none →
      Sends c m (.ofCreation m.sender m.nonce) l sent →
      Does h c m gas l ((sent.setNonce (.ofCreation m.sender m.nonce) 1).setCode
        (.ofCreation m.sender m.nonce) m.data)

theorem run_does {result : ExecutionResult} {notes : Unit}
    (hrun : h.run (interpreter c m gas) l = ((result, notes), l')) (hr : result.reverted = false) :
    Does h c m gas l l' := by
  cases run_comes hrun with
  | served hrecipient ht hs => exact .calls hrecipient ht hs
  | sent hrecipient _ hs => exact .sends hrecipient hs
  | deployed hrecipient _ hs _ => exact .deploys hrecipient hs
  | refused => cases hr.symm.trans (reverted_ofPrecompile _)
  | unexecutable | unpaid | collided | undeployed => cases hr

end Native

end EvmBank
