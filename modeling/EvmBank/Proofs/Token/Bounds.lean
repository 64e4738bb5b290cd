import EvmBank.Precompile.Table
import EvmBank.Proofs.Abi.Reading
import EvmBank.Proofs.Checked

/-!
# Calls of tokens stay in their bounds

The reading of calldata, the methods of tokens and the search of the table, written with operations
that come to a breach out of their bounds. They never do: a call that is dispatched with them comes to
the same as without (`checkedDispatch_eq_ok`), whatever the table, the calldata and the ledger are.
-/

namespace EvmBank

open Checked

/-! ## Reading calldata -/

namespace Abi

def checkedSplitSelector (input : Bytes) : Except Breach (Except InputError (Bytes × Bytes)) :=
  if input.length < 4 then .ok (.error (.noSelector input.length))
  else do
    let selector ← copy 4 (← slice input 0 4)
    return .ok (selector, ← slice input 4 input.length)

theorem checkedSplitSelector_eq_ok (input : Bytes) :
    checkedSplitSelector input = .ok (splitSelector input) := by
  unfold checkedSplitSelector splitSelector
  split
  · rfl
  · rename_i hlong
    have hfour : 4 ≤ input.length := Nat.le_of_not_lt hlong
    have hlength : (input.take 4).length = 4 := List.length_take_of_le hfour
    rw [slice_eq_take hfour, slice_eq_drop hfour, List.splitAt_eq]
    change (copy 4 (input.take 4) >>= fun _ => _) = _
    rw [copy_eq_ok hlength]
    rfl

abbrev CheckedReader := Checked.Action InputError Cursor

/-- Reads an address. When the word is found not to be one, it was counted before. -/
def checkedAddress : CheckedReader Address := do
  let w ← total word
  let padding ← within (slice w 0 12)
  if padding.all (· = 0) then
    match Address.ofBytes? (← within (slice w 12 w.length)) with
    | some a => return a
    | none => throw .missingArgument
  else
    throw (.notAnAddress (← within (difference (← get).index 1)))

def checkedUint : CheckedReader Amount := do
  within (amountOfBytes (← total word))

variable {c c' : Cursor}

theorem index_of_word {w : Bytes} (h : word.run.run c = (.ok w, c')) : c'.index = c.index + 1 := by
  unfold word at h
  obtain ⟨_, _, ⟨⟩, h⟩ := Fallible.run_bind_eq_ok.mp h
  dsimp only at h
  split at h
  · cases h
  · cases h
    rfl

theorem checkedAddress_agrees : Agrees checkedAddress address c := by
  unfold checkedAddress address
  change Agrees _ (word >>= fun w => _) c
  refine (Agrees.total word).bind_of fun w c' hw => ?_
  have hlength : w.length = 32 := (word_eq_ok hw).2
  refine .within (slice_eq_take (by omega)) ?_
  split
  · refine .within (slice_eq_drop (by omega)) ?_
    cases Address.ofBytes? (w.drop 12) with
    | some a => exact .pure a
    | none => exact .throw _
  · have hindex := index_of_word hw
    change Agrees (Checked.within (difference c'.index 1) >>= fun i => _) _ c'
    refine .within (difference_eq_ok (by omega)) ?_
    rw [hindex]
    rfl

theorem checkedUint_agrees : Agrees checkedUint uint c := by
  refine (Agrees.total word).bind_of fun w c' hw => ?_
  have hlength : w.length = 32 := (word_eq_ok hw).2
  rw [amountOfBytes_eq_ok (by omega)]
  rfl

/-- Reads arguments with `reader` from data that should hold `count` words. -/
def checkedRead {α : Type} (data : Bytes) (count : Nat) (reader : CheckedReader α) :
    Except Breach (Except InputError α) :=
  match Cursor.ofArguments data count with
  | .error cause => .ok (.error cause)
  | .ok c => (reader.run.run c).map (·.1)

theorem checkedRead_eq_ok {α : Type} {checked : CheckedReader α} {reader : Reader α} (data : Bytes)
    (count : Nat) (h : ∀ c, Agrees checked reader c) :
    checkedRead data count checked = .ok (read data count reader) := by
  unfold checkedRead read
  cases Cursor.ofArguments data count with
  | error cause => rfl
  | ok c => exact congrArg (Except.map Prod.fst) (h c)

end Abi

/-! ## Calls of tokens -/

namespace Token

open Abi

abbrev CheckedAction := Checked.Action PrecompileError Ledger

def checkedArguments {α : Type} (data : Bytes) (count : Nat) (reader : CheckedReader α) :
    CheckedAction α := do
  match ← within (checkedRead data count reader) with
  | .ok values => return values
  | .error cause => throw (.invalidInput cause)

def checkedTransfer (t : Token) (call : PrecompileCall) (data : Bytes) : CheckedAction Bytes := do
  let (target, amount) ← checkedArguments data 2 do return (← checkedAddress, ← checkedUint)
  total (t.moveFunds call.caller target amount)
  return boolWord true

/-- Moves coins of another account. What is left of the limit is computed once they are moved. -/
def checkedTransferFrom (t : Token) (call : PrecompileCall) (data : Bytes) : CheckedAction Bytes := do
  let (source, target, amount) ← checkedArguments data 3 do
    return (← checkedAddress, ← checkedAddress, ← checkedUint)
  if source = call.caller then
    total (t.moveFunds source target amount)
    return boolWord true
  let some g := liveGrant? (← get) source call.caller call.time
    | throw (.unauthorized (.noGrant source call.caller))
  if !g.allows target then
    throw (.unauthorized (.recipientNotAllowed target))
  let limit := g.limitFor t.denom
  if limit < amount then
    throw (.unauthorized (.limitExceeded amount limit))
  total (t.moveFunds source target amount)
  let left ← within (amountDifference limit amount)
  total (storeGrant source call.caller (g.setLimit t.denom left))
  return boolWord true

def checkedApprove (t : Token) (call : PrecompileCall) (data : Bytes) : CheckedAction Bytes := do
  let (spender, amount) ← checkedArguments data 2 do return (← checkedAddress, ← checkedUint)
  match liveGrant? (← get) call.caller spender call.time with
  | some g => total (storeGrant call.caller spender (g.setLimit t.denom amount))
  | none =>
    if amount.isZero then
      modify fun l => l.revokeGrant call.caller spender
    else
      let expiration := call.time.satAdd t.approvalSeconds
      modify fun l => l.setGrant (Grant.single call.caller spender t.denom amount (some expiration))
  total (t.emit approvalTopic call.caller spender amount)
  return boolWord true

def checkedAdjustAllowance (t : Token) (call : PrecompileCall) (data : Bytes)
    (adjust : Amount → Amount → Option Amount) : CheckedAction Bytes := do
  let (spender, delta) ← checkedArguments data 2 do return (← checkedAddress, ← checkedUint)
  let some g := liveGrant? (← get) call.caller spender call.time
    | throw (.unauthorized (.noAllowance call.caller spender))
  let some updated := adjust (g.limitFor t.denom) delta
    | throw .allowanceOverflow
  total (storeGrant call.caller spender (g.setLimit t.denom updated))
  total (t.emit approvalTopic call.caller spender updated)
  return boolWord true

def checkedRunMethod (t : Token) (call : PrecompileCall) (data : Bytes) :
    TokenMethod → CheckedAction Bytes
  | .transfer => t.checkedTransfer call data
  | .transferFrom => t.checkedTransferFrom call data
  | .approve => t.checkedApprove call data
  | .increaseAllowance => t.checkedAdjustAllowance call data Quantity.add?
  | .decreaseAllowance => t.checkedAdjustAllowance call data Quantity.sub?
  | .allowance => do
    let (owner, spender) ← checkedArguments data 2 do return (← checkedAddress, ← checkedAddress)
    return uintWord (t.allowanceAt (← get) owner spender call.time)
  | .balanceOf => do
    let account ← checkedArguments data 1 checkedAddress
    return uintWord ((← get).balance account t.denom)
  | .totalSupply => do
    checkedArguments data 0 (return ())
    return uintWord ((← get).supply t.denom)

def checkedRun (t : Token) (call : PrecompileCall) : CheckedAction PrecompileOutput := do
  match ← within (checkedSplitSelector call.input) with
  | .error cause => throw (.invalidInput cause)
  | .ok (selector, data) =>
    let some m := TokenMethod.ofSelector? selector
      | throw (.unknownMethod selector)
    let gasUsed := m.gas call.input.length
    if call.gasLimit < gasUsed then
      throw .outOfGas
    if !call.value.isZero then
      throw .nonPayable
    if call.isStatic && m.isTransaction then
      throw .writeProtection
    let output ← t.checkedRunMethod call data m
    return { gasUsed, output }

variable {t : Token} {call : PrecompileCall} {data : Bytes} {l : Ledger}

theorem checkedArguments_agrees {α : Type} {checked : CheckedReader α} {reader : Reader α}
    (count : Nat) (h : ∀ c, Agrees checked reader c) :
    Agrees (checkedArguments data count checked) (arguments data count reader) l := by
  refine .within (checkedRead_eq_ok data count h) ?_
  unfold arguments
  cases Abi.read data count reader with
  | ok values => exact .pure values
  | error cause => exact .throw _

/-- The arguments of most methods. -/
theorem addressAndUint_agrees (c : Cursor) :
    Agrees (do return (← checkedAddress, ← checkedUint)) (do return (← Abi.address, ← uint)) c :=
  checkedAddress_agrees.bind fun _ _ => checkedUint_agrees.bind fun _ _ => .pure _

theorem checkedTransfer_agrees : Agrees (t.checkedTransfer call data) (t.transfer call data) l := by
  refine (checkedArguments_agrees 2 addressAndUint_agrees).bind ?_
  rintro ⟨target, amount⟩ l
  exact (Agrees.total _).bind fun _ _ => .pure _

theorem checkedTransferFrom_agrees :
    Agrees (t.checkedTransferFrom call data) (t.transferFrom call data) l := by
  have hreader : ∀ c, Agrees (do return (← checkedAddress, ← checkedAddress, ← checkedUint))
      (do return (← Abi.address, ← Abi.address, ← uint)) c := fun c =>
    checkedAddress_agrees.bind fun _ _ => checkedAddress_agrees.bind fun _ _ =>
      checkedUint_agrees.bind fun _ _ => .pure _
  refine (checkedArguments_agrees 3 hreader).bind ?_
  rintro ⟨source, target, amount⟩ l
  dsimp only
  split
  · exact (Agrees.total _).bind fun _ _ => .pure _
  · refine Agrees.get.bind fun l' _ => ?_
    cases liveGrant? l' source call.caller call.time with
    | none => exact .throw _
    | some g =>
      dsimp only
      split
      · exact .throw _
      -- There is something left exactly if the limit is not below the amount.
      · cases hleft : (g.limitFor t.denom).sub? amount with
        | none =>
          have hmore : g.limitFor t.denom < amount := Quantity.sub?_eq_none.mp hleft
          rw [if_pos hmore]
          exact .throw _
        | some left =>
          have hless : ¬g.limitFor t.denom < amount :=
            Nat.not_lt_of_le (Quantity.sub?_eq_some.mp hleft).1
          rw [if_neg hless]
          refine (Agrees.total _).bind fun _ _ => ?_
          refine .within (amountDifference_eq_ok hleft) ?_
          exact (Agrees.total _).bind fun _ _ => .pure _

theorem checkedApprove_agrees : Agrees (t.checkedApprove call data) (t.approve call data) l := by
  refine (checkedArguments_agrees 2 addressAndUint_agrees).bind ?_
  rintro ⟨spender, amount⟩ l
  dsimp only
  refine Agrees.get.bind fun l' _ => ?_
  cases liveGrant? l' call.caller spender call.time with
  | some g => exact (Agrees.total _).bind fun _ _ => (Agrees.total _).bind fun _ _ => .pure _
  | none =>
    dsimp only
    split
    · exact (Agrees.modify _).bind fun _ _ => (Agrees.total _).bind fun _ _ => .pure _
    · exact (Agrees.modify _).bind fun _ _ => (Agrees.total _).bind fun _ _ => .pure _

theorem checkedAdjustAllowance_agrees (adjust : Amount → Amount → Option Amount) :
    Agrees (t.checkedAdjustAllowance call data adjust) (t.adjustAllowance call data adjust) l := by
  refine (checkedArguments_agrees 2 addressAndUint_agrees).bind ?_
  rintro ⟨spender, delta⟩ l
  refine Agrees.get.bind fun l' _ => ?_
  cases liveGrant? l' call.caller spender call.time with
  | none => exact .throw _
  | some g =>
    dsimp only
    cases adjust (g.limitFor t.denom) delta with
    | none => exact .throw _
    | some updated =>
      exact (Agrees.total _).bind fun _ _ => (Agrees.total _).bind fun _ _ => .pure _

theorem checkedRunMethod_agrees (m : TokenMethod) :
    Agrees (t.checkedRunMethod call data m) (t.runMethod call data m) l := by
  cases m with
  | transfer => exact checkedTransfer_agrees
  | transferFrom => exact checkedTransferFrom_agrees
  | approve => exact checkedApprove_agrees
  | increaseAllowance => exact checkedAdjustAllowance_agrees Quantity.add?
  | decreaseAllowance => exact checkedAdjustAllowance_agrees Quantity.sub?
  | allowance =>
    have hreader : ∀ c, Agrees (do return (← checkedAddress, ← checkedAddress))
        (do return (← Abi.address, ← Abi.address)) c := fun c =>
      checkedAddress_agrees.bind fun _ _ => checkedAddress_agrees.bind fun _ _ => .pure _
    refine (checkedArguments_agrees 2 hreader).bind ?_
    rintro ⟨owner, spender⟩ l
    rfl
  | balanceOf => exact (checkedArguments_agrees 1 fun _ => checkedAddress_agrees).bind fun _ _ => rfl
  | totalSupply => exact (checkedArguments_agrees 0 fun _ => .pure ()).bind fun _ _ => rfl

theorem checkedRun_agrees : Agrees (t.checkedRun call) (t.run call) l := by
  refine .within (checkedSplitSelector_eq_ok call.input) ?_
  unfold run
  cases Abi.splitSelector call.input with
  | error cause => exact .throw _
  | ok parts =>
    obtain ⟨selector, data⟩ := parts
    dsimp only
    cases TokenMethod.ofSelector? selector with
    | none => exact .throw _
    | some m =>
      dsimp only
      split
      · exact .throw _
      · split
        · exact .throw _
        · split
          · exact .throw _
          · exact (checkedRunMethod_agrees m).bind fun _ _ => .pure _

end Token

/-! ## The table -/

namespace PrecompileTable

/-- Looks for an address among the `count` entries from `low` on. -/
def checkedSearch (entries : Array TableEntry) (a : Address) :
    (fuel low count : Nat) → Except Breach (Option TableEntry)
  | 0, _, _ => .ok none
  | fuel + 1, low, count =>
    if count = 0 then .ok none
    else do
      let middle := low + count / 2
      let e ← index entries middle
      match compare a e.address with
      | .lt => checkedSearch entries a fuel low (count / 2)
      | .eq => return some e
      | .gt => checkedSearch entries a fuel (middle + 1) (← difference (count - count / 2) 1)

def checkedLookup (t : PrecompileTable) (a : Address) : Except Breach (Option Token) := do
  return (← checkedSearch t.entries a t.entries.size 0 t.entries.size).map (·.token)

def checkedRunScoped (t : Token) (call : PrecompileCall) (l : Ledger) :
    Except Breach (Except PrecompileError PrecompileOutput × Ledger) := do
  let scope := l.depth
  let (result, ran) ← (t.checkedRun call).run.run l.openScope
  let closed := match result with
    | .ok _ => ran.commit scope
    | .error _ => ran.rollback scope
  match closed with
  | .ok l => return (result, l)
  | .error cause => return (.error (.ledger cause), ran)

def checkedDispatch (t : PrecompileTable) (a : Address) (call : PrecompileCall) (l : Ledger) :
    Except Breach (Option (Except PrecompileError PrecompileOutput) × Ledger) := do
  match ← t.checkedLookup a with
  | none => return (none, l)
  | some token =>
    let (result, l) ← checkedRunScoped token call l
    return (some result, l)

/-- The search stays among the entries that it was given, whatever their order is. -/
theorem checkedSearch_eq_ok {entries : Array TableEntry} {a : Address} {fuel low count : Nat}
    (h : low + count ≤ entries.size) :
    checkedSearch entries a fuel low count = .ok (search entries a fuel low count) := by
  induction fuel generalizing low count with
  | zero => rfl
  | succ fuel ih =>
    unfold checkedSearch search
    split
    · rfl
    · rename_i hsome
      have hmiddle : low + count / 2 < entries.size := by omega
      have hentry : entries[low + count / 2]? = some entries[low + count / 2] :=
        Array.getElem?_eq_getElem hmiddle
      dsimp only
      rw [index, hentry]
      change (match compare a entries[low + count / 2].address with | .lt => _ | .eq => _ | .gt => _) = _
      dsimp only
      cases compare a entries[low + count / 2].address with
      | lt => exact ih (by omega)
      | eq => rfl
      | gt =>
        dsimp only
        rw [difference_eq_ok (by omega)]
        exact ih (by omega)

theorem checkedLookup_eq_ok (t : PrecompileTable) (a : Address) :
    t.checkedLookup a = .ok (t.lookup a) := by
  unfold checkedLookup
  rw [checkedSearch_eq_ok (by omega)]
  rfl

theorem checkedRunScoped_eq_ok (t : Token) (call : PrecompileCall) (l : Ledger) :
    checkedRunScoped t call l = .ok (runScoped t call l) := by
  have hrun : (t.checkedRun call).run.run l.openScope = .ok ((t.run call).run.run l.openScope) :=
    Token.checkedRun_agrees
  unfold checkedRunScoped runScoped
  rw [hrun]
  rcases (t.run call).run.run l.openScope with ⟨cause | served, ran⟩
  · dsimp only [bind, Except.bind]
    cases ran.rollback l.depth <;> rfl
  · dsimp only [bind, Except.bind]
    cases ran.commit l.depth <;> rfl

theorem checkedDispatch_eq_ok (t : PrecompileTable) (a : Address) (call : PrecompileCall) (l : Ledger) :
    t.checkedDispatch a call l = .ok (t.dispatch a call l) := by
  unfold checkedDispatch dispatch
  rw [checkedLookup_eq_ok]
  change (match t.lookup a with | none => _ | some token => _) = _
  cases t.lookup a with
  | none => rfl
  | some token =>
    dsimp only
    rw [checkedRunScoped_eq_ok]
    rfl

end PrecompileTable

end EvmBank
