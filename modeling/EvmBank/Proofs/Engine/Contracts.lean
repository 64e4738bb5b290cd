import EvmBank.Proofs.Engine.Completion
import EvmBank.Proofs.Engine.Custody
import EvmBank.Proofs.Engine.Settlement

/-!
# Contracts that are deployed

An account with code, or with a nonce other than zero, is taken: no step of an engine changes its
code, and no nonce ever decreases (`Books.KeepsContracts`). That is carried from what an execution can
come to, through the stages of a message, to all runs of an engine (`after_keepsContracts`). It needs
nothing of the addresses that new contracts get: a contract is deployed only where the account is
vacant, and the nonce that it gets there keeps it from being vacant again, also where its code is
empty. What is true of the messages of a run two by two is carried from one step to all later ones
(`pairwise_receipts`).
-/

namespace EvmBank

/-! ## Books -/

namespace Books

variable {b b' b'' : Books} {a : Address}

/-- Nonces do not decrease, and the code of an account that is not vacant stays as it is. -/
structure KeepsContracts (b b' : Books) : Prop where
  nonce_le : ∀ a, b.nonce a ≤ b'.nonce a
  code_eq : ∀ a, ¬b.Vacant a → b'.code a = b.code a

theorem not_vacant : ¬b.Vacant a ↔ b.code a ≠ [] ∨ b.nonce a ≠ 0 := by
  constructor
  · intro htaken
    by_cases hcode : b.code a = []
    · exact .inr fun hnonce => htaken ⟨hcode, hnonce⟩
    · exact .inl hcode
  · intro htaken hvacant
    rcases htaken with hcode | hnonce
    · exact hcode hvacant.code
    · exact hnonce hvacant.nonce

namespace KeepsContracts

theorem of_frame (hnonces : b'.nonces = b.nonces) (hcodes : b'.codes = b.codes) :
    b.KeepsContracts b' := by
  refine ⟨fun a => ?_, fun a _ => ?_⟩
  · rw [nonce, nonce, hnonces]
    exact Nat.le_refl _
  · rw [code, code, hcodes]

theorem refl (b : Books) : b.KeepsContracts b := .of_frame rfl rfl

/-- No nonce goes back to zero. -/
theorem nonce_ne_zero (h : b.KeepsContracts b') (hn : b.nonce a ≠ 0) : b'.nonce a ≠ 0 := by
  intro hzero
  have hle := Quantity.le_def.mp (h.nonce_le a)
  rw [hzero, Quantity.toNat_zero] at hle
  exact hn (Quantity.toNat_inj.mp ((Nat.le_zero.mp hle).trans Quantity.toNat_zero.symm))

/-- An account that is taken stays taken. -/
theorem not_vacant (h : b.KeepsContracts b') (ha : ¬b.Vacant a) : ¬b'.Vacant a := by
  intro hvacant
  rcases Books.not_vacant.mp ha with hcode | hnonce
  · exact hcode ((h.code_eq a ha).symm.trans hvacant.code)
  · exact h.nonce_ne_zero hnonce hvacant.nonce

theorem trans (h : b.KeepsContracts b') (h' : b'.KeepsContracts b'') : b.KeepsContracts b'' := by
  refine ⟨fun a => Nat.le_trans (h.nonce_le a) (h'.nonce_le a), fun a ha => ?_⟩
  exact (h'.code_eq a (h.not_vacant ha)).trans (h.code_eq a ha)

/-- A contract is deployed where nothing is. -/
theorem deploy (ha : b.Vacant a) (code : Bytes) :
    b.KeepsContracts ((b.setNonce a 1).setCode a code) := by
  refine ⟨fun a' => ?_, fun a' htaken => ?_⟩
  · show b.nonce a' ≤ (b.setNonce a 1).nonce a'
    rw [nonce_setNonce]
    split
    · rename_i he
      rw [he, ha.nonce]
      exact Nat.zero_le _
    · exact Nat.le_refl _
  · have hother : a' ≠ a := by
      intro he
      exact htaken (he ▸ ha)
    rw [code_setCode, if_neg hother]
    rfl

end KeepsContracts

theorem keepsContracts_of_transfer {source target : Address} {d : Denom} {amount : Amount}
    (h : b.transfer source target d amount = .ok b') : b.KeepsContracts b' := by
  obtain ⟨hnonces, hcodes, -⟩ := frame_of_transfer h
  exact .of_frame hnonces hcodes

end Books

theorem Ledger.keepsContracts_of_transfer {l l' : Ledger} {source target : Address} {d : Denom}
    {amount : Amount} (h : l.transfer source target d amount = .ok l') :
    l.books.KeepsContracts l'.books :=
  Books.keepsContracts_of_transfer (books_of_transfer h)

/-! ## Executions -/

namespace Token

variable {t : Token} {caller : Address} {time : Seconds} {call : PrecompileCall} {l l' : Ledger}
  {r : TokenRequest} {out : Bytes} {served : PrecompileOutput}

theorem Performs.keepsContracts (hp : t.Performs caller time l r out l') :
    l.books.KeepsContracts l'.books := by
  have keep (l : Ledger) (owner spender : Address) (g : Grant) :
      l.books.KeepsContracts (l.keepGrant owner spender g).books := by
    obtain ⟨-, -, hnonces, hcodes⟩ := l.frame_keepGrant owner spender g
    exact .of_frame hnonces hcodes
  cases hp with
  | transfer hm | transferOwn hm =>
    rw [Ledger.books_addLog]
    exact Ledger.keepsContracts_of_transfer hm
  | transferGranted _ _ _ _ hm =>
    refine .trans ?_ (keep _ _ _ _)
    rw [Ledger.books_addLog]
    exact Ledger.keepsContracts_of_transfer hm
  | approveLive | increase | decrease =>
    rw [Ledger.books_addLog]
    exact keep l _ _ _
  | approveNothing =>
    rw [Ledger.books_addLog, Ledger.books_revokeGrant]
    exact .of_frame rfl rfl
  | approveNew => exact .of_frame rfl rfl
  | allowance | balanceOf | totalSupply => exact .refl _

theorem Served.keepsContracts (hs : t.Served call l r served l') :
    l.books.KeepsContracts l'.books := by
  obtain ⟨ran, hperforms, hcommit⟩ := hs.performs
  rw [Ledger.books_of_commit hcommit]
  exact hperforms.keepsContracts

end Token

namespace Native

variable {h : Host} {c : ExecutionConfig} {m : Message} {gas : Gas} {target : Address}
  {l l' : Ledger} {result : ExecutionResult}

theorem Sends.keepsContracts (hs : Sends c m target l l') : l.books.KeepsContracts l'.books := by
  rcases hs with ⟨-, rfl⟩ | hsent
  · exact .refl _
  · exact Ledger.keepsContracts_of_transfer hsent

theorem Sends.vacant (hs : Sends c m target l l') {a : Address} (ha : l.books.Vacant a) :
    l'.books.Vacant a := by
  rcases hs with ⟨-, rfl⟩ | hsent
  · exact ha
  · obtain ⟨hnonces, hcodes, -⟩ := Books.frame_of_transfer (Ledger.books_of_transfer hsent)
    refine ⟨?_, ?_⟩
    · rw [Books.code, hcodes]
      exact ha.code
    · rw [Books.nonce, hnonces]
      exact ha.nonce

theorem Comes.keepsContracts (hc : Comes h c m gas l result l') :
    l.books.KeepsContracts l'.books := by
  cases hc with
  | served _ _ hs => exact hs.keepsContracts
  | refused | unexecutable | unpaid | collided => exact .refl _
  | sent _ _ hs | undeployed _ hs _ => exact hs.keepsContracts
  | deployed _ hvacant hs _ =>
    rw [Ledger.books_setCode, Ledger.books_setNonce]
    exact hs.keepsContracts.trans (.deploy (hs.vacant hvacant) m.data)

/-- A creation that does not fail reports where the contract is, and nothing was there before. -/
theorem Comes.created (hc : Comes h c m gas l result l') (hcreation : m.isCreation = true)
    (hr : result.reverted = false) :
    ∃ a, result.created = some a ∧ l.books.Vacant a ∧ l'.books.nonce a ≠ 0 := by
  have hnone : m.recipient = none := Option.isNone_iff_eq_none.mp hcreation
  cases hc with
  | served hsome _ _ | sent hsome _ _ => cases hnone.symm.trans hsome
  | refused => cases hr.symm.trans (reverted_ofPrecompile _)
  | unexecutable | unpaid | collided | undeployed => cases hr
  | @deployed sent _ hvacant _ _ =>
    refine ⟨_, rfl, hvacant, ?_⟩
    rw [Ledger.books_setCode, Ledger.books_setNonce]
    show (sent.books.setNonce _ 1).nonce _ ≠ 0
    rw [Books.nonce_setNonce, if_pos rfl]
    decide

end Native

/-! ## Messages -/

theorem Quantity.le_satAdd {bits : Nat} (n n' : Quantity bits) : n ≤ n.satAdd n' := by
  have hfits := n.isLt
  rw [Quantity.le_def, Quantity.toNat_satAdd]
  omega

namespace Transition

variable {h : Host} {c : ExecutionConfig} {m : Message} {price : Amount} {available intrinsic : Gas}
  {result : ExecutionResult} {l l' : Ledger}

theorem Bought.keepsContracts (hb : Bought c m price l l') (hnonce : l.nonce m.sender = m.nonce) :
    l.books.KeepsContracts l'.books := by
  refine ⟨fun a => ?_, fun a _ => ?_⟩
  · rw [hb.nonce]
    split
    · rename_i he
      rw [he, show l.books.nonce m.sender = m.nonce from hnonce]
      exact Quantity.le_satAdd m.nonce 1
    · exact Nat.le_refl _
  · rw [Books.code, Books.code, hb.codes]

theorem Executed.keepsContracts (hx : Executed Native.interpreter h c m available l result l') :
    l.books.KeepsContracts l'.books := by
  cases hx with
  | denied | reverted => exact .refl _
  | kept _ hrun _ _ _ hcommit =>
    rw [Ledger.books_of_commit hcommit]
    exact (Native.run_comes hrun).keepsContracts

/-- A creation that was kept has deployed a contract where nothing was. -/
theorem Executed.created (hx : Executed Native.interpreter h c m available l result l')
    (hcreation : m.isCreation = true) (hr : result.reverted = false) :
    ∃ a, result.created = some a ∧ l.books.Vacant a ∧ l'.books.nonce a ≠ 0 := by
  cases hx with
  | denied => cases hr
  | reverted _ _ _ hreverted => cases hr.symm.trans hreverted
  | kept _ hrun _ _ _ hcommit =>
    rw [Ledger.books_of_commit hcommit]
    exact (Native.run_comes hrun).created hcreation hr

theorem Returned.keepsContracts (hr : Returned c m price l l') :
    l.books.KeepsContracts l'.books := by
  cases hr with
  | nothing => exact .refl _
  | paid _ hpaid => exact Ledger.keepsContracts_of_transfer hpaid

theorem Reached.keepsContracts (hr : Reached Native.interpreter h c m price intrinsic l l')
    (hnonce : l.nonce m.sender = m.nonce) : l.books.KeepsContracts l'.books := by
  cases hr with
  | start => exact .refl _
  | bought hb => exact hb.keepsContracts hnonce
  | executed hb _ hx => exact (hb.keepsContracts hnonce).trans hx.keepsContracts

theorem Finished.keepsContracts (hf : Finished Native.interpreter h c m price intrinsic l l')
    (hnonce : l.nonce m.sender = m.nonce) : l.books.KeepsContracts l'.books := by
  obtain ⟨hb, _, hx, hr⟩ := hf
  exact ((hb.keepsContracts hnonce).trans hx.keepsContracts).trans hr.keepsContracts

end Transition

namespace Engine

open Transition

variable {e : Engine} {m : Message} {b : Block} {meter : Meter} {keep : Bool} {receipt : Receipt}

theorem apply_keepsContracts (e : Engine) (m : Message) (b : Block) (meter : Meter) (keep : Bool) :
    e.ledger.books.KeepsContracts
      (e.apply Native.interpreter m b meter keep).2.ledger.books := by
  rcases books_of_apply Native.interpreter_wellNested e m b meter keep with
    hsame | ⟨c, price, intrinsic, l, hadmits, hbooks, hr | hf⟩
  · rw [hsame]
    exact .refl _
  · rw [hbooks]
    exact hr.keepsContracts hadmits.passes.nonce
  · rw [hbooks]
    exact hf.keepsContracts hadmits.passes.nonce

/-- A message that was applied for good has counted, and if it deployed a contract, the account of
the contract was vacant before and is not any more. -/
theorem receipt_facts
    (h : (e.apply Native.interpreter m b meter true).1.result = .ok receipt) :
    let after := (e.apply Native.interpreter m b meter true).2.ledger.books
    e.ledger.nonce m.sender = m.nonce ∧ m.nonce.satAdd 1 ≤ after.nonce m.sender ∧
      (m.isCreation = true → receipt.reverted = false →
        ∃ a, receipt.created = some a ∧ e.ledger.nonce a = 0 ∧ after.nonce a ≠ 0) := by
  obtain ⟨c, price, intrinsic, s, hadmits, rfl, hc, hclosed⟩ := apply_completed h
  have hnonce := hadmits.passes.nonce
  rw [if_pos rfl] at hclosed
  obtain ⟨hbooks, -, -⟩ := Ledger.commit_dropLogs hclosed
  have hx := hc.ran.executed (Native.interpreter_wellNested c m s.available e.headers b _).inside
  obtain ⟨hnonces, hcodes, -⟩ := hc.repaid.frame
  have hrest := hx.keepsContracts.trans (.of_frame hnonces hcodes)
  have hcounted := hrest.nonce_le m.sender
  rw [hc.bought.nonce, if_pos rfl] at hcounted
  rw [hbooks]
  refine ⟨hnonce, hcounted, fun hcreation hr => ?_⟩
  obtain ⟨a, hcreated, hvacant, hdeployed⟩ := hx.created hcreation hr
  have hbefore := hc.bought.keepsContracts hnonce
  refine ⟨a, hcreated, ?_, ?_⟩
  · by_contra hused
    exact hbefore.nonce_ne_zero hused hvacant.nonce
  · rw [Books.nonce, hnonces]
    exact hdeployed

/-! ## Runs of an engine -/

theorem step_keepsContracts (e : Engine) (s : EngineStep) :
    e.ledger.books.KeepsContracts (e.step s).ledger.books := by
  rcases step_ledger e s with ⟨m, b, meter, keep, rfl⟩ | hsame
  · exact apply_keepsContracts e m b meter keep
  · rw [hsame]
    exact .refl _

theorem after_keepsContracts (e : Engine) (steps : List EngineStep) :
    e.ledger.books.KeepsContracts (e.after steps).ledger.books := by
  induction steps generalizing e with
  | nil => exact .refl _
  | cons s rest ih => exact (step_keepsContracts e s).trans (ih (e.step s))

/-- The message that a step applies for good, with its receipt. -/
def settled? (e : Engine) : EngineStep → Option (Message × Receipt)
  | .apply m b meter true =>
    match (e.apply Native.interpreter m b meter true).1.result with
    | .ok receipt => some (m, receipt)
    | .error _ => none
  | _ => none

/-- The messages of a run that are applied for good, in their order, with their receipts. -/
def receipts (e : Engine) : List EngineStep → List (Message × Receipt)
  | [] => []
  | s :: rest => (e.settled? s).toList ++ (e.step s).receipts rest

theorem settled?_eq_some {s : EngineStep} {x : Message × Receipt} (h : e.settled? s = some x) :
    ∃ b meter, s = .apply x.1 b meter true ∧
      (e.apply Native.interpreter x.1 b meter true).1.result = .ok x.2 := by
  unfold settled? at h
  split at h
  · split at h
    · cases h
      exact ⟨_, _, rfl, ‹_›⟩
    · cases h
  · cases h

section
variable {P : Message × Receipt → Books → Prop}
  {R : Message × Receipt → Message × Receipt → Prop} {steps : List EngineStep}
  {x : Message × Receipt}

/-- What a message that is applied for good makes true of the books, and later steps keep, is true at
the end of the run. -/
theorem after_of_mem_receipts
    (hsets : ∀ (e : Engine) s x, e.settled? s = some x → P x (e.step s).ledger.books)
    (hkeeps : ∀ x b b', Books.KeepsContracts b b' → P x b → P x b')
    (hx : x ∈ e.receipts steps) : P x (e.after steps).ledger.books := by
  induction steps generalizing e with
  | nil => cases hx
  | cons s rest ih =>
    rcases List.mem_append.mp hx with hnow | hlater
    · have hset := hsets e s x (Option.mem_toList.mp hnow)
      exact hkeeps x _ _ (after_keepsContracts (e.step s) rest) hset
    · exact ih hlater

/-- While that is true, it tells something of every message that is applied for good. -/
theorem forall_mem_receipts
    (hkeeps : ∀ x b b', Books.KeepsContracts b b' → P x b → P x b')
    (hmeets : ∀ (e : Engine) s x y, P x e.ledger.books → e.settled? s = some y → R x y)
    (hx : P x e.ledger.books) : ∀ y ∈ e.receipts steps, R x y := by
  induction steps generalizing e with
  | nil => exact List.forall_mem_nil _
  | cons s rest ih =>
    intro y hy
    rcases List.mem_append.mp hy with hnow | hlater
    · exact hmeets e s x y hx (Option.mem_toList.mp hnow)
    · exact ih (hkeeps x _ _ (step_keepsContracts e s) hx) y hlater

/-- So it tells something of any two messages of a run that are applied for good. -/
theorem pairwise_receipts
    (hsets : ∀ (e : Engine) s x, e.settled? s = some x → P x (e.step s).ledger.books)
    (hkeeps : ∀ x b b', Books.KeepsContracts b b' → P x b → P x b')
    (hmeets : ∀ (e : Engine) s x y, P x e.ledger.books → e.settled? s = some y → R x y)
    (e : Engine) (steps : List EngineStep) : (e.receipts steps).Pairwise R := by
  induction steps generalizing e with
  | nil => exact .nil
  | cons s rest ih =>
    refine List.pairwise_append.mpr ⟨?_, ih (e.step s), ?_⟩
    · cases e.settled? s with
      | none => exact .nil
      | some y => exact List.pairwise_singleton R y
    · intro x hx
      exact forall_mem_receipts hkeeps hmeets (hsets e s x (Option.mem_toList.mp hx))

end

/-! ## Contracts of a run -/

/-- The creations of a run that are applied for good and do not fail. -/
def deployments (e : Engine) (steps : List EngineStep) : List (Message × Receipt) :=
  (e.receipts steps).filter fun x => x.1.isCreation && !x.2.reverted

/-- If a message deployed a contract, it reports where, and the account is taken. -/
def Deployed (x : Message × Receipt) (b : Books) : Prop :=
  (x.1.isCreation && !x.2.reverted) = true → ∃ a, x.2.created = some a ∧ b.nonce a ≠ 0

theorem Deployed.keeps {x : Message × Receipt} {b b' : Books} (hk : b.KeepsContracts b')
    (hx : Deployed x b) : Deployed x b' := by
  intro hdeploys
  obtain ⟨a, hcreated, hused⟩ := hx hdeploys
  exact ⟨a, hcreated, hk.nonce_ne_zero hused⟩

/-- A contract is deployed where the nonce was zero, and is not afterwards. -/
theorem deployed_of_settled? {s : EngineStep} {x : Message × Receipt} (h : e.settled? s = some x)
    (hdeploys : (x.1.isCreation && !x.2.reverted) = true) :
    ∃ a, x.2.created = some a ∧ e.ledger.nonce a = 0 ∧ (e.step s).ledger.nonce a ≠ 0 := by
  obtain ⟨b, meter, rfl, hok⟩ := settled?_eq_some h
  obtain ⟨hcreation, hreverted⟩ := (Bool.and_eq_true ..).mp hdeploys
  obtain ⟨-, -, hdeployed⟩ := receipt_facts hok
  exact hdeployed hcreation (by simpa using hreverted)

theorem Deployed.of_settled? {s : EngineStep} {x : Message × Receipt} (h : e.settled? s = some x) :
    Deployed x (e.step s).ledger.books := by
  intro hdeploys
  obtain ⟨a, hcreated, -, hused⟩ := deployed_of_settled? h hdeploys
  exact ⟨a, hcreated, hused⟩

theorem created_pairwise (e : Engine) (steps : List EngineStep) :
    (e.receipts steps).Pairwise fun x y =>
      (x.1.isCreation && !x.2.reverted) = true → (y.1.isCreation && !y.2.reverted) = true →
        x.2.created ≠ y.2.created := by
  refine pairwise_receipts (fun _ _ _ => Deployed.of_settled?) (fun _ _ _ => Deployed.keeps) ?_ e steps
  intro e s x y hx hy hdeploys hdeploys' hsame
  obtain ⟨a, hcreated, hused⟩ := hx hdeploys
  obtain ⟨a', hcreated', hfree, -⟩ := deployed_of_settled? hy hdeploys'
  rw [hcreated, hcreated'] at hsame
  cases hsame
  exact hused hfree

/-- A run of an engine, up to any point and on from there: its messages are executed without a virtual
machine, are kept or simulated, fail or are rejected, and contracts get whatever addresses they get.
An account that has code at that point, or a nonce other than zero, keeps its code for the rest of the
run. Every creation of the run that is applied for good and does not fail reports an address, and no
two of them the same one. No nonce decreases. -/
theorem contracts_are_kept (e : Engine) (before rest : List EngineStep) :
    (∀ a, ((e.after before).ledger.code a ≠ [] ∨ (e.after before).ledger.nonce a ≠ 0) →
        (e.after (before ++ rest)).ledger.code a = (e.after before).ledger.code a) ∧
      (∀ x ∈ e.deployments (before ++ rest), x.2.created.isSome = true) ∧
      ((e.deployments (before ++ rest)).map fun x => x.2.created).Nodup ∧
      ∀ a, (e.after before).ledger.nonce a ≤ (e.after (before ++ rest)).ledger.nonce a := by
  have happend : e.after (before ++ rest) = (e.after before).after rest := List.foldl_append
  have hkeeps := after_keepsContracts (e.after before) rest
  rw [← happend] at hkeeps
  refine ⟨fun a htaken => hkeeps.code_eq a (Books.not_vacant.mpr htaken), ?_, ?_, hkeeps.nonce_le⟩
  · intro x hx
    obtain ⟨hmem, hdeploys⟩ := List.mem_filter.mp hx
    have hend := after_of_mem_receipts (fun _ _ _ => Deployed.of_settled?)
      (fun _ _ _ => Deployed.keeps) hmem
    obtain ⟨a, hcreated, -⟩ := hend hdeploys
    rw [hcreated]
    rfl
  · exact List.pairwise_map.mpr (List.pairwise_filter.mpr (created_pairwise e (before ++ rest)))

end Engine

end EvmBank
