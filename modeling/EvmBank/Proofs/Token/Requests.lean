import EvmBank.Precompile.Token
import EvmBank.Proofs.Abi.Reading

/-!
# Requests to a token

A request as data, its calldata, and what a token does on it (`Performs`, one rule for each way to
succeed). A call either fails and leaves the ledger as it was, or its calldata is that of a request
which is then performed (`run_cases`); later proofs do not look into the methods again.
-/

namespace EvmBank

open Fallible

/-- A request to a token. -/
inductive TokenRequest where
  | transfer (target : Address) (amount : Amount)
  | transferFrom (source target : Address) (amount : Amount)
  | approve (spender : Address) (amount : Amount)
  | increaseAllowance (spender : Address) (delta : Amount)
  | decreaseAllowance (spender : Address) (delta : Amount)
  | allowance (owner spender : Address)
  | balanceOf (account : Address)
  | totalSupply
deriving DecidableEq

namespace TokenRequest

def method : TokenRequest → TokenMethod
  | transfer .. => .transfer
  | transferFrom .. => .transferFrom
  | approve .. => .approve
  | increaseAllowance .. => .increaseAllowance
  | decreaseAllowance .. => .decreaseAllowance
  | allowance .. => .allowance
  | balanceOf _ => .balanceOf
  | totalSupply => .totalSupply

def arguments : TokenRequest → List Abi.Argument
  | transfer target amount => [.address target, .uint amount]
  | transferFrom source target amount => [.address source, .address target, .uint amount]
  | approve spender amount => [.address spender, .uint amount]
  | increaseAllowance spender delta => [.address spender, .uint delta]
  | decreaseAllowance spender delta => [.address spender, .uint delta]
  | allowance owner spender => [.address owner, .address spender]
  | balanceOf account => [.address account]
  | totalSupply => []

/-- The calldata that asks for it. -/
def calldata (r : TokenRequest) : Bytes :=
  Abi.encodeCall r.method.selector (r.arguments.map Abi.Argument.word)

end TokenRequest

theorem TokenMethod.ofSelector?_selector (m : TokenMethod) : ofSelector? m.selector = some m := by
  cases m <;> rfl

/-- Calldata asks for one request only. -/
theorem TokenRequest.calldata_inj {r r' : TokenRequest} (h : r.calldata = r'.calldata) : r = r' := by
  have hlength (m : TokenMethod) : m.selector.length = 4 := by cases m <;> rfl
  obtain ⟨hs, hw⟩ := List.append_inj h ((hlength _).trans (hlength _).symm)
  have hm : r.method = r'.method := by
    have := congrArg TokenMethod.ofSelector? hs
    rw [TokenMethod.ofSelector?_selector, TokenMethod.ofSelector?_selector] at this
    exact Option.some.inj this
  have ha : r.arguments = r'.arguments := by
    refine Abi.words_inj ?_ hw
    cases r <;> cases r' <;> cases hm <;> rfl
  cases r <;> cases r' <;> cases hm <;> cases ha <;> rfl

/-- Stores the grant of an owner to a spender, or drops it where it has no limit left. -/
def Ledger.keepGrant (l : Ledger) (owner spender : Address) (g : Grant) : Ledger :=
  if g.spendLimit.isEmpty then l.revokeGrant owner spender else l.setGrant g

namespace Token

/-- The log about two accounts and a number. -/
def event (t : Token) (topic : Hash) (first second : Address) (n : Nat) : Log :=
  ⟨t.address, [topic, Hash.ofAddress first, Hash.ofAddress second], Bytes.bigEndian Abi.wordSize n⟩

section
variable (t : Token) (caller : Address) (time : Seconds) (l : Ledger)

/-- What a token does on a request, from a ledger to its output and the ledger after it. -/
inductive Performs : TokenRequest → Bytes → Ledger → Prop
  | transfer {target : Address} {amount : Amount} {moved : Ledger} :
      l.transfer caller target t.denom amount = .ok moved →
      Performs (.transfer target amount) (Abi.boolWord true)
        (moved.addLog (t.event transferTopic caller target amount.toNat))
  /-- Coins of the caller need no grant. -/
  | transferOwn {target : Address} {amount : Amount} {moved : Ledger} :
      l.transfer caller target t.denom amount = .ok moved →
      Performs (.transferFrom caller target amount) (Abi.boolWord true)
        (moved.addLog (t.event transferTopic caller target amount.toNat))
  | transferGranted {source target : Address} {amount left : Amount} {g : Grant} {moved : Ledger} :
      source ≠ caller → liveGrant? l source caller time = some g → g.allows target = true →
      (g.limitFor t.denom).sub? amount = some left →
      l.transfer source target t.denom amount = .ok moved →
      Performs (.transferFrom source target amount) (Abi.boolWord true)
        ((moved.addLog (t.event transferTopic source target amount.toNat)).keepGrant source caller
          (g.setLimit t.denom left))
  | approveLive {spender : Address} {amount : Amount} {g : Grant} :
      liveGrant? l caller spender time = some g →
      Performs (.approve spender amount) (Abi.boolWord true)
        ((l.keepGrant caller spender (g.setLimit t.denom amount)).addLog
          (t.event approvalTopic caller spender amount.toNat))
  /-- What is left of an expired grant is cleared. -/
  | approveNothing {spender : Address} {amount : Amount} :
      liveGrant? l caller spender time = none → amount = 0 →
      Performs (.approve spender amount) (Abi.boolWord true)
        ((l.revokeGrant caller spender).addLog (t.event approvalTopic caller spender amount.toNat))
  | approveNew {spender : Address} {amount : Amount} :
      liveGrant? l caller spender time = none → amount ≠ 0 →
      Performs (.approve spender amount) (Abi.boolWord true)
        ((l.setGrant (Grant.single caller spender t.denom amount
            (some (time.satAdd t.approvalSeconds)))).addLog
          (t.event approvalTopic caller spender amount.toNat))
  | increase {spender : Address} {delta updated : Amount} {g : Grant} :
      liveGrant? l caller spender time = some g → (g.limitFor t.denom).add? delta = some updated →
      Performs (.increaseAllowance spender delta) (Abi.boolWord true)
        ((l.keepGrant caller spender (g.setLimit t.denom updated)).addLog
          (t.event approvalTopic caller spender updated.toNat))
  | decrease {spender : Address} {delta updated : Amount} {g : Grant} :
      liveGrant? l caller spender time = some g → (g.limitFor t.denom).sub? delta = some updated →
      Performs (.decreaseAllowance spender delta) (Abi.boolWord true)
        ((l.keepGrant caller spender (g.setLimit t.denom updated)).addLog
          (t.event approvalTopic caller spender updated.toNat))
  | allowance {owner spender : Address} :
      Performs (.allowance owner spender) (Abi.uintWord (t.allowanceAt l owner spender time)) l
  | balanceOf {account : Address} :
      Performs (.balanceOf account) (Abi.uintWord (l.balance account t.denom)) l
  | totalSupply : Performs .totalSupply (Abi.uintWord (l.supply t.denom)) l

end

variable {t : Token} {l : Ledger} {call : PrecompileCall} {data : Bytes}

theorem liveGrant?_eq_some {owner spender : Address} {time : Seconds} {g : Grant}
    (h : liveGrant? l owner spender time = some g) :
    l.grant? owner spender = some g ∧ g.isExpired time = false := by
  obtain ⟨hg, hlive⟩ := Option.filter_eq_some_iff.mp h
  exact ⟨hg, by simpa using hlive⟩

/-! ## One method at a time -/

/-- The action stops and leaves `l` as it is, or ends as `Q` says. -/
abbrev From (l : Ledger) {α : Type} (x : LedgerAction α) (Q : α → Ledger → Prop) : Prop :=
  Ends x Q (fun _ l' => l' = l) l

theorem arguments_from {α : Type} {count : Nat} {reader : Abi.Reader α}
    {encode : α → List Abi.Argument} (hread : Abi.Reads reader encode)
    (hsize : ∀ a, Abi.argumentsSize count = (encode a).length * Abi.wordSize) :
    From l (arguments data count reader) fun a l' =>
      l' = l ∧ data = ((encode a).map Abi.Argument.word).flatten := by
  unfold arguments
  cases h : Abi.read data count reader with
  | ok values => exact ⟨rfl, hread.read_eq_ok (hsize values) h⟩
  | error cause => exact rfl

/-- Coins are moved where the ledger moves them, and else nothing is changed. -/
theorem moveFunds_from {source target : Address} {amount : Amount} :
    From l (t.moveFunds source target amount) fun _ l' =>
      ∃ moved, l.transfer source target t.denom amount = .ok moved ∧
        l' = moved.addLog (t.event transferTopic source target amount.toNat) := by
  simp only [From, moveFunds, ends_bind, ends_get]
  split
  · exact ends_throw.mpr rfl
  · cases h : l.transfer source target t.denom amount with
    | error cause => exact rfl
    | ok moved => exact ⟨moved, rfl, rfl⟩

/-- What a method does is what a request for it asks for. -/
def Serves (t : Token) (call : PrecompileCall) (data : Bytes) (l : Ledger) (m : TokenMethod)
    (out : Bytes) (l' : Ledger) : Prop :=
  ∃ r : TokenRequest, r.method = m ∧ data = (r.arguments.map Abi.Argument.word).flatten ∧
    t.Performs call.caller call.time l r out l'

theorem transfer_from : From l (t.transfer call data) (t.Serves call data l .transfer) := by
  refine (arguments_from Abi.reads_addressUint fun _ => rfl).bind ?_
  rintro ⟨target, amount⟩ l ⟨rfl, hdata⟩
  refine moveFunds_from.bind ?_
  rintro _ _ ⟨moved, hm, rfl⟩
  exact ⟨.transfer target amount, rfl, hdata, .transfer hm⟩

theorem transferFrom_from :
    From l (t.transferFrom call data) (t.Serves call data l .transferFrom) := by
  refine (arguments_from Abi.reads_addressesUint fun _ => rfl).bind ?_
  rintro ⟨source, target, amount⟩ l ⟨rfl, hdata⟩
  dsimp only
  split
  · rename_i hs
    cases hs
    refine moveFunds_from.bind ?_
    rintro _ _ ⟨moved, hm, rfl⟩
    exact ⟨.transferFrom _ target amount, rfl, hdata, .transferOwn hm⟩
  · rename_i hs
    simp only [ends_bind, ends_get]
    cases hg : liveGrant? l source call.caller call.time with
    | none => exact rfl
    | some g =>
      dsimp only
      cases ha : g.allows target with
      | false => exact rfl
      | true =>
        cases hn : (g.limitFor t.denom).sub? amount with
        | none => exact rfl
        | some left =>
          refine moveFunds_from.bind ?_
          rintro _ _ ⟨moved, hm, rfl⟩
          exact ⟨.transferFrom source target amount, rfl, hdata, .transferGranted hs hg ha hn hm⟩

theorem approve_from : From l (t.approve call data) (t.Serves call data l .approve) := by
  refine (arguments_from Abi.reads_addressUint fun _ => rfl).bind ?_
  rintro ⟨spender, amount⟩ l ⟨rfl, hdata⟩
  simp only [ends_bind, ends_get]
  cases hg : liveGrant? l call.caller spender call.time with
  | some g => exact ⟨.approve spender amount, rfl, hdata, .approveLive hg⟩
  | none =>
    cases hz : amount.isZero with
    | true =>
      exact ⟨.approve spender amount, rfl, hdata, .approveNothing hg (Quantity.isZero_iff.mp hz)⟩
    | false =>
      have : amount ≠ 0 := fun h => by simp [Quantity.isZero_iff.mpr h] at hz
      exact ⟨.approve spender amount, rfl, hdata, .approveNew hg this⟩

/-- Both ways to adjust an allowance, whatever `adjust` does to its limit. -/
theorem adjustAllowance_from {adjust : Amount → Amount → Option Amount} :
    From l (t.adjustAllowance call data adjust) fun out l' =>
      ∃ spender delta g updated, data = ([Abi.Argument.address spender, .uint delta].map
          Abi.Argument.word).flatten ∧
        liveGrant? l call.caller spender call.time = some g ∧
        adjust (g.limitFor t.denom) delta = some updated ∧ out = Abi.boolWord true ∧
        l' = (l.keepGrant call.caller spender (g.setLimit t.denom updated)).addLog
          (t.event approvalTopic call.caller spender updated.toNat) := by
  refine (arguments_from Abi.reads_addressUint fun _ => rfl).bind ?_
  rintro ⟨spender, delta⟩ l ⟨rfl, hdata⟩
  simp only [ends_bind, ends_get]
  cases hg : liveGrant? l call.caller spender call.time with
  | none => exact rfl
  | some g =>
    dsimp only
    cases ha : adjust (g.limitFor t.denom) delta with
    | none => exact rfl
    | some updated => exact ⟨spender, delta, g, updated, hdata, hg, ha, rfl, rfl⟩

theorem runMethod_from {m : TokenMethod} :
    From l (t.runMethod call data m) (t.Serves call data l m) := by
  cases m with
  | transfer => exact transfer_from
  | transferFrom => exact transferFrom_from
  | approve => exact approve_from
  | increaseAllowance =>
    refine adjustAllowance_from.mono ?_ fun _ _ h => h
    rintro _ _ ⟨spender, delta, g, updated, hdata, hg, ha, rfl, rfl⟩
    exact ⟨.increaseAllowance spender delta, rfl, hdata, .increase hg ha⟩
  | decreaseAllowance =>
    refine adjustAllowance_from.mono ?_ fun _ _ h => h
    rintro _ _ ⟨spender, delta, g, updated, hdata, hg, ha, rfl, rfl⟩
    exact ⟨.decreaseAllowance spender delta, rfl, hdata, .decrease hg ha⟩
  | allowance =>
    refine (arguments_from Abi.reads_addresses fun _ => rfl).bind ?_
    rintro ⟨owner, spender⟩ l ⟨rfl, hdata⟩
    exact ⟨.allowance owner spender, rfl, hdata, .allowance⟩
  | balanceOf =>
    refine (arguments_from Abi.reads_address fun _ => rfl).bind ?_
    rintro account l ⟨rfl, hdata⟩
    exact ⟨.balanceOf account, rfl, hdata, .balanceOf⟩
  | totalSupply =>
    refine (arguments_from Abi.reads_none fun _ => rfl).bind ?_
    rintro _ l ⟨rfl, hdata⟩
    exact ⟨.totalSupply, rfl, hdata, .totalSupply⟩

/-! ## Whole calls -/

theorem selector_of_ofSelector? {s : Bytes} {m : TokenMethod}
    (h : TokenMethod.ofSelector? s = some m) : m.selector = s :=
  by simpa using List.find?_some h

/-- What a call has to be for a request to be served: it is the request's calldata, is paid in full,
carries no value, and asks for no change where it must not make one. -/
structure Admits (call : PrecompileCall) (r : TokenRequest) (gasUsed : Gas) : Prop where
  input : call.input = r.calldata
  charged : gasUsed = r.method.gas call.input.length
  paid : gasUsed ≤ call.gasLimit
  value : call.value = 0
  static : call.isStatic = true → r.method.isTransaction = false

/-- A call stops and leaves the ledger as it was, or serves the request that its calldata is. -/
theorem run_from : From l (t.run call) fun out l' =>
    ∃ r, Admits call r out.gasUsed ∧ t.Performs call.caller call.time l r out.output l' := by
  unfold run
  cases hinput : Abi.splitSelector call.input with
  | error cause => exact rfl
  | ok parts =>
    obtain ⟨selector, data⟩ := parts
    dsimp only
    cases hm : TokenMethod.ofSelector? selector with
    | none => exact rfl
    | some m =>
      dsimp only
      split
      · exact rfl
      · rename_i hgas
        split
        · exact rfl
        · rename_i hvalue
          split
          · exact rfl
          · rename_i hstatic
            refine runMethod_from.bind ?_
            rintro out l' ⟨r, rfl, hdata, hr⟩
            refine ⟨r, ⟨?_, rfl, Nat.le_of_not_lt hgas, ?_, ?_⟩, hr⟩
            · rw [Abi.splitSelector_eq_ok hinput, hdata, ← selector_of_ofSelector? hm]
              rfl
            · exact Quantity.isZero_iff.mp (by simpa using hvalue)
            · intro h
              simpa [h] using hstatic

/-! ## Errors of the ledger -/

/-- An error that a token hands on from `l` is that of coins that could not be moved. -/
def HandsOn (t : Token) (l : Ledger) (cause : PrecompileError) : Prop :=
  ∀ error, cause = .ledger error →
    ∃ source target amount, l.transfer source target t.denom amount = .error error

/-- The action stops with an error of the ledger only where coins could not be moved. -/
abbrev Refuses (t : Token) (l : Ledger) {α : Type} (x : LedgerAction α) : Prop :=
  Ends x (fun _ _ => True) (fun cause _ => t.HandsOn l cause) l

theorem arguments_handsOn {α : Type} {count : Nat} {reader : Abi.Reader α} :
    Ends (arguments data count reader) (fun _ l' => l' = l) (fun cause _ => t.HandsOn l cause) l := by
  unfold arguments
  cases Abi.read data count reader with
  | ok values => exact rfl
  | error cause => exact nofun

theorem moveFunds_refuses {source target : Address} {amount : Amount} :
    t.Refuses l (t.moveFunds source target amount) := by
  simp only [Refuses, moveFunds, ends_bind, ends_get]
  split
  · exact ends_throw.mpr nofun
  · cases h : l.transfer source target t.denom amount with
    | error cause =>
      intro error he
      cases he
      exact ⟨source, target, amount, h⟩
    | ok moved => exact trivial

theorem transfer_refuses : t.Refuses l (t.transfer call data) := by
  refine arguments_handsOn.bind ?_
  rintro ⟨target, amount⟩ _ rfl
  exact moveFunds_refuses.bind fun _ _ _ => trivial

theorem transferFrom_refuses : t.Refuses l (t.transferFrom call data) := by
  refine arguments_handsOn.bind ?_
  rintro ⟨source, target, amount⟩ l rfl
  dsimp only
  split
  · exact moveFunds_refuses.bind fun _ _ _ => trivial
  · simp only [ends_bind, ends_get]
    cases liveGrant? l source call.caller call.time with
    | none => exact nofun
    | some g =>
      dsimp only
      cases g.allows target with
      | false => exact nofun
      | true =>
        cases (g.limitFor t.denom).sub? amount with
        | none => exact nofun
        | some left => exact moveFunds_refuses.bind fun _ _ _ => trivial

theorem approve_refuses : t.Refuses l (t.approve call data) := by
  refine arguments_handsOn.bind ?_
  rintro ⟨spender, amount⟩ l rfl
  simp only [ends_bind, ends_get]
  cases liveGrant? l call.caller spender call.time with
  | some g => exact trivial
  | none => cases amount.isZero <;> exact trivial

theorem adjustAllowance_refuses {adjust : Amount → Amount → Option Amount} :
    t.Refuses l (t.adjustAllowance call data adjust) := by
  refine arguments_handsOn.bind ?_
  rintro ⟨spender, delta⟩ l rfl
  simp only [ends_bind, ends_get]
  cases liveGrant? l call.caller spender call.time with
  | none => exact nofun
  | some g =>
    dsimp only
    cases adjust (g.limitFor t.denom) delta with
    | none => exact nofun
    | some updated => exact trivial

theorem runMethod_refuses {m : TokenMethod} : t.Refuses l (t.runMethod call data m) := by
  cases m with
  | transfer => exact transfer_refuses
  | transferFrom => exact transferFrom_refuses
  | approve => exact approve_refuses
  | increaseAllowance | decreaseAllowance => exact adjustAllowance_refuses
  | allowance | balanceOf | totalSupply => exact arguments_handsOn.bind fun _ _ _ => trivial

/-- A call that stops with an error of the ledger was to move coins that the ledger would not
move. -/
theorem run_refuses : t.Refuses l (t.run call) := by
  unfold run
  cases Abi.splitSelector call.input with
  | error cause => exact nofun
  | ok parts =>
    obtain ⟨selector, data⟩ := parts
    dsimp only
    cases TokenMethod.ofSelector? selector with
    | none => exact nofun
    | some m =>
      dsimp only
      split
      · exact nofun
      split
      · exact nofun
      split
      · exact nofun
      exact runMethod_refuses.bind fun _ _ _ => trivial

end Token

end EvmBank
