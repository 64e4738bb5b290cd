import EvmBank.Engine
import EvmBank.Proofs.Engine.Course

/-!
# What applying a message comes to

A message is refused before it costs anything, or is run (`apply_cases`). With a well-nested
interpreter this comes to one of four things (`apply_applied`): the message is rejected and the ledger
is as before, down to its buffered logs and open scopes; its effects are kept or undone as asked; or
there is a fault.
-/

namespace EvmBank

/-- A cause that is found before a message costs anything. -/
def TransitionError.IsEarly : TransitionError → Prop
  | .invalidTransaction _ | .intrinsicGas _ | .intrinsicGasExceedsLimit _ _ | .config _
  | .registry _ => True
  | _ => False

theorem ExecutionConfig.build_eq_ok {p : Params} {b : Block} {proposer : Bytes}
    {validators : ValidatorSet} {table : PrecompileTable} {traced : Bool} {c : ExecutionConfig}
    (h : build p b proposer validators table traced = .ok c) :
    ∃ coinbase, c =
      { rules := p.forks.rules b.chainId b.height
        coinbase
        baseFee := b.baseFee
        precompiles := table
        traced
        accessControl := p.accessControl
        evmDenom := p.evmDenom
        feeCollector := p.feeCollector
        minGasMultiplier := p.minGasMultiplier } := by
  unfold build at h
  dsimp only at h
  split at h
  · cases h
  · cases h
    exact ⟨_, rfl⟩

namespace Engine

open Fallible Ledger Transition

variable {ν : Type} {e : Engine} {interpreter : Interpreter ν} {m : Message} {b : Block}
  {meter : Meter} {keep : Bool}

/-- A message that passes the checks, with what they find out. -/
structure Admits (e : Engine) (m : Message) (b : Block) (meter : Meter) (c : ExecutionConfig)
    (price : Amount) (intrinsic : Gas) : Prop where
  table : (e.tableFor b.height).1 = .ok c.precompiles
  config : ExecutionConfig.build e.params b e.proposer e.validators c.precompiles e.traced = .ok c
  checked : m.precheck c e.ledger meter.limit = .ok (price, intrinsic)

/-- The table is the one that is kept, or is built. -/
theorem tableFor_cases (e : Engine) (height : Height) :
    (∃ table, e.kept = some (height, table) ∧ e.tableFor height = (.ok table, e)) ∨
      e.tableFor height = e.buildTable height := by
  unfold tableFor
  cases hkept : e.kept with
  | none => exact .inr rfl
  | some entry =>
    obtain ⟨built, table⟩ := entry
    by_cases hheight : built = height
    · subst hheight
      exact .inl ⟨table, rfl, if_pos rfl⟩
    · exact .inr (if_neg hheight)

/-- Finding the table changes nothing but which one is kept. -/
theorem tableFor_snd (e : Engine) (height : Height) :
    ∃ kept, (e.tableFor height).2 = { e with kept } := by
  rcases tableFor_cases e height with ⟨table, -, htable⟩ | hbuild
  · rw [htable]
    exact ⟨e.kept, rfl⟩
  · rw [hbuild, buildTable]
    split
    · exact ⟨_, rfl⟩
    · exact ⟨e.kept, rfl⟩

theorem isEarly_of_tableFor {height : Height} {cause : TransitionError}
    (h : (e.tableFor height).1 = .error cause) : cause.IsEarly := by
  rcases tableFor_cases e height with ⟨table, -, htable⟩ | hbuild
  · rw [htable] at h
    cases h
  · rw [hbuild, buildTable] at h
    split at h
    · cases h
    · cases h
      exact trivial

theorem isEarly_of_precheck {c : ExecutionConfig} {l : Ledger} {limit : Gas}
    {cause : TransitionError} (h : m.precheck c l limit = .error cause) : cause.IsEarly := by
  unfold Message.precheck at h
  cases hvalid : m.validate c l limit with
  | error refused =>
    rw [hvalid] at h
    cases h
    exact trivial
  | ok price =>
    rw [hvalid] at h
    cases hgas : intrinsicGas m.data m.accessList m.isCreation c.rules with
    | error overflow =>
      rw [hgas] at h
      cases h
      exact trivial
    | ok intrinsic =>
      rw [hgas] at h
      change (if m.gasLimit < intrinsic then _ else _) = _ at h
      split at h
      · cases h
        exact trivial
      · cases h

/-- With the table and the configuration, the checks decide. The table is the only thing that is kept
of finding it. -/
theorem apply_of_config {c : ExecutionConfig}
    (htable : (e.tableFor b.height).1 = .ok c.precompiles)
    (hconfig : ExecutionConfig.build e.params b e.proposer e.validators c.precompiles e.traced = .ok c)
    (interpreter : Interpreter ν) (keep : Bool) :
    e.apply interpreter m b meter keep =
      match m.precheck c e.ledger meter.limit with
      | .error cause => (refusal meter cause, (e.tableFor b.height).2)
      | .ok (price, intrinsic) =>
        (e.tableFor b.height).2.applyChecked interpreter c m b meter keep price intrinsic := by
  obtain ⟨kept, hsnd⟩ := tableFor_snd e b.height
  cases hfound : e.tableFor b.height with
  | mk found e' =>
    rw [hfound] at hsnd htable
    cases hsnd
    cases htable
    cases hcheck : m.precheck c e.ledger meter.limit with
    | error cause => simp only [apply, hfound, hconfig, hcheck]
    | ok charge => simp only [apply, hfound, hconfig, hcheck]

theorem apply_of_admits {c : ExecutionConfig} {price : Amount} {intrinsic : Gas}
    (ha : e.Admits m b meter c price intrinsic) (interpreter : Interpreter ν) (keep : Bool) :
    e.apply interpreter m b meter keep =
      (e.tableFor b.height).2.applyChecked interpreter c m b meter keep price intrinsic := by
  rw [apply_of_config ha.table ha.config, ha.checked]

/-- A message that is not admitted is refused, however it would have been run. -/
theorem admits_or_refused (e : Engine) (m : Message) (b : Block) (meter : Meter) :
    (∃ c price intrinsic, e.Admits m b meter c price intrinsic) ∨
      ∃ cause : TransitionError, cause.IsEarly ∧
        ∀ {ν : Type} (interpreter : Interpreter ν) (keep : Bool),
          e.apply interpreter m b meter keep = (refusal meter cause, (e.tableFor b.height).2) := by
  obtain ⟨kept, hsnd⟩ := tableFor_snd e b.height
  cases htable : e.tableFor b.height with
  | mk found e' =>
    rw [htable] at hsnd
    cases hsnd
    cases found with
    | error cause =>
      exact .inr ⟨cause, isEarly_of_tableFor (congrArg Prod.fst htable),
        fun interpreter keep => by simp only [apply, htable]⟩
    | ok table =>
      cases hconfig : ExecutionConfig.build e.params b e.proposer e.validators table e.traced with
      | error cause =>
        exact .inr ⟨.config cause, trivial,
          fun interpreter keep => by simp only [apply, htable, hconfig]⟩
      | ok c =>
        cases hcheck : m.precheck c e.ledger meter.limit with
        | error cause =>
          exact .inr ⟨cause, isEarly_of_precheck hcheck,
            fun interpreter keep => by simp only [apply, htable, hconfig, hcheck]⟩
        | ok found =>
          obtain ⟨price, intrinsic⟩ := found
          have hprecompiles : c.precompiles = table := by
            obtain ⟨_, rfl⟩ := ExecutionConfig.build_eq_ok hconfig
            rfl
          cases hprecompiles
          exact .inl ⟨c, price, intrinsic, congrArg Prod.fst htable, hconfig, hcheck⟩

/-- A message is refused before it costs anything, or has passed the checks and is run. -/
theorem apply_cases {ν : Type} (e : Engine) (interpreter : Interpreter ν) (m : Message) (b : Block)
    (meter : Meter) (keep : Bool) :
    (∃ cause kept, cause.IsEarly ∧
        e.apply interpreter m b meter keep = (refusal meter cause, { e with kept })) ∨
      ∃ c price intrinsic kept, e.Admits m b meter c price intrinsic ∧
        e.apply interpreter m b meter keep =
          { e with kept }.applyChecked interpreter c m b meter keep price intrinsic := by
  obtain ⟨kept, hsnd⟩ := tableFor_snd e b.height
  rcases admits_or_refused e m b meter with ⟨c, price, intrinsic, ha⟩ | ⟨cause, hearly, hrefused⟩
  · exact .inr ⟨c, price, intrinsic, kept, ha, hsnd ▸ apply_of_admits ha interpreter keep⟩
  · exact .inl ⟨cause, kept, hearly, hsnd ▸ hrefused interpreter keep⟩

/-- How applying a message may change the ledger. -/
inductive Applied (interpreter : Interpreter ν) (e : Engine) (m : Message) (b : Block)
    (meter : Meter) (keep : Bool) : Except Stop Receipt → Ledger → Prop
  | rejected {cause : TransitionError} :
      Applied interpreter e m b meter keep (.error (.rejected cause)) e.ledger
  | undone {receipt : Receipt} : keep = false →
      Applied interpreter e m b meter keep (.ok receipt) e.ledger.dropLogs
  | kept {receipt : Receipt} {c : ExecutionConfig} {price : Amount} {intrinsic : Gas}
      {done l : Ledger} : keep = true → e.Admits m b meter c price intrinsic →
      Finished interpreter ⟨e.headers, b, c.precompiles⟩ c m price intrinsic e.ledger.openScope done →
      done.commit e.ledger.depth = .ok l → Applied interpreter e m b meter keep (.ok receipt) l
  | faulted {fault : Fault} {c : ExecutionConfig} {price : Amount} {intrinsic : Gas} {l : Ledger} :
      e.Admits m b meter c price intrinsic →
      Reached interpreter ⟨e.headers, b, c.precompiles⟩ c m price intrinsic e.ledger.openScope l →
      Applied interpreter e m b meter keep (.error (.fault fault)) l

section
variable {h : Host} {c : ExecutionConfig} {price : Amount} {intrinsic : Gas} {l : Ledger}

/-- The scope of a message that stopped gives back the ledger as it was. -/
theorem rollback_of_reached
    (hr : Reached interpreter h c m price intrinsic e.ledger.openScope l) :
    l.rollback e.ledger.depth = .ok e.ledger :=
  (hr.inside (.openScope e.ledger)).rollback_eq

/-- The scope of a message that has gone the whole way can be closed either way. -/
theorem close_of_finished (hf : Finished interpreter h c m price intrinsic e.ledger.openScope l) :
    (∃ l', l.commit e.ledger.depth = .ok l') ∧
      l.rollback e.ledger.depth = .ok e.ledger.dropLogs := by
  obtain ⟨done, hin, rfl⟩ := hf.inside (.openScope e.ledger)
  refine ⟨⟨_, hin.within.dropLogs.commit_self hin.depth⟩, ?_⟩
  rw [hin.within.dropLogs.rollback_self hin.depth]
  simp [dropLogs]

end

/-- The table that is kept meanwhile has no part in it. -/
theorem applyChecked_applied {c : ExecutionConfig} {price : Amount} {intrinsic : Gas}
    (hi : StaysInside interpreter ⟨e.headers, b, c.precompiles⟩ c m price e.ledger.openScope)
    (ha : e.Admits m b meter c price intrinsic) (kept : Option (Height × PrecompileTable)) :
    let applied := { e with kept }.applyChecked interpreter c m b meter keep price intrinsic
    Applied interpreter e m b meter keep applied.1.result applied.2.ledger := by
  have hends := apply_ends ⟨e.ledger.openScope, meter, none⟩ price intrinsic hi
  cases hrun : (Transition.apply interpreter ⟨e.headers, b, c.precompiles⟩ c m price intrinsic).run.run
      ⟨e.ledger.openScope, meter, none⟩ with
  | mk result p =>
    match result with
    | .error (.fault fault) =>
      simp only [applyChecked, hrun]
      exact .faulted ha (hends.of_run_error hrun)
    | .error (.rejected cause) =>
      have hback := rollback_of_reached (hends.of_run_error hrun)
      simp only [applyChecked, hrun, hback]
      exact .rejected
    | .ok receipt =>
      have hf := hends.of_run_ok hrun
      obtain ⟨⟨l, hc⟩, hb⟩ := close_of_finished hf
      cases keep with
      | true =>
        simp only [applyChecked, hrun, if_true, hc]
        exact .kept rfl ha hf hc
      | false =>
        simp only [applyChecked, hrun, Bool.false_eq_true, if_false, hb]
        exact .undone rfl

theorem staysInside_of_wellNested (hi : interpreter.WellNested) (headers : HeaderStore) (b : Block)
    (c : ExecutionConfig) (m : Message) (price : Amount) (l : Ledger) :
    StaysInside interpreter ⟨headers, b, c.precompiles⟩ c m price l :=
  fun available l₁ _ => (hi c m available headers b l₁.openScope).inside

theorem apply_applied (hi : interpreter.WellNested) (e : Engine) (m : Message) (b : Block)
    (meter : Meter) (keep : Bool) :
    Applied interpreter e m b meter keep (e.apply interpreter m b meter keep).1.result
      (e.apply interpreter m b meter keep).2.ledger := by
  rcases apply_cases e interpreter m b meter keep with
    ⟨cause, kept, -, happly⟩ | ⟨c, price, intrinsic, kept, hadmits, happly⟩
  · rw [happly]
    exact .rejected
  · rw [happly]
    exact applyChecked_applied (staysInside_of_wellNested hi _ _ _ _ _ _) hadmits kept

/-- The books after a message are those of before, or those that its stages have come to. -/
theorem books_of_apply (hi : interpreter.WellNested) (e : Engine) (m : Message) (b : Block)
    (meter : Meter) (keep : Bool) :
    (e.apply interpreter m b meter keep).2.ledger.books = e.ledger.books ∨
      ∃ c price intrinsic l, e.Admits m b meter c price intrinsic ∧
        (e.apply interpreter m b meter keep).2.ledger.books = l.books ∧
        (Reached interpreter ⟨e.headers, b, c.precompiles⟩ c m price intrinsic e.ledger.openScope l ∨
          Finished interpreter ⟨e.headers, b, c.precompiles⟩ c m price intrinsic
            e.ledger.openScope l) := by
  have happlied := apply_applied hi e m b meter keep
  generalize (e.apply interpreter m b meter keep).1.result = result at happlied
  generalize (e.apply interpreter m b meter keep).2.ledger = l at happlied ⊢
  cases happlied with
  | rejected | undone => exact .inl rfl
  | kept _ hadmits hf hc =>
    exact .inr ⟨_, _, _, _, hadmits, Ledger.books_of_commit hc, .inr hf⟩
  | faulted hadmits hr => exact .inr ⟨_, _, _, _, hadmits, rfl, .inl hr⟩

/-! ## Rejected messages -/

/-- A message that is rejected, for whatever cause, leaves no trace in the ledger: with the entries
of the books, the buffered logs and the open scopes are as before. The execution without a virtual
machine is well nested. -/
theorem rejected_leaves_no_trace :
    Native.interpreter.WellNested ∧
      ∀ {ν : Type} {interpreter : Interpreter ν}, interpreter.WellNested →
        ∀ (e : Engine) (m : Message) (b : Block) (meter : Meter) (keep : Bool)
          (cause : TransitionError),
          (e.apply interpreter m b meter keep).1.result = .error (.rejected cause) →
            (e.apply interpreter m b meter keep).2.ledger = e.ledger := by
  refine ⟨Native.interpreter_wellNested, fun {ν interpreter} hi e m b meter keep cause h => ?_⟩
  have happlied := apply_applied hi e m b meter keep
  rw [h] at happlied
  generalize (e.apply interpreter m b meter keep).2.ledger = l at happlied ⊢
  cases happlied
  rfl

/-- An engine with coins of accounts 1 and 3, of which account 3 lets account 1 spend some, and the
token of these coins at account 4. Gas is bought from account 2. -/
def small : Engine where
  ledger :=
    ((Ledger.empty.mint (.ofLow 1) "aledger" 1000000).mint (.ofLow 3) "aledger" 500
      |>.openAccount (.ofLow 2)).setGrant (.single (.ofLow 3) (.ofLow 1) "aledger" 100 (some 2000))
  headers := .empty none
  validators := SortedMap.empty.insert [1] (.ofLow 3)
  params := { Params.standard with feeCollector := .ofLow 2, tokens := ⟨true, [], [.ofLow 4]⟩ }
  registry :=
    { pairs := SortedMap.empty.insert "aledger" ⟨.ofLow 4, "aledger", true, .external⟩
      denoms := SortedMap.empty.insert (.ofLow 4) "aledger" }
  kept := none
  traced := false
  proposer := [1]

/-- A block of it. -/
def smallBlock : Block := ⟨1, 1000, [], 1, none, none, none⟩

/-- Writes, and then reports more gas than there is. -/
def greedy : Interpreter Unit := fun _ m gas => do
  Program.ledger (.setCode m.sender [1])
  return (.success (gas.satAdd 1) [], ())

theorem greedy_wellNested : greedy.WellNested := fun _ _ _ _ _ l =>
  (Program.asks_ledger.mpr ⟨trivial, fun _ => Program.asks_pure⟩).wellNested _ l

/-- The gas was bought, and the code written, when the message was rejected. -/
theorem overreported_leaves_no_trace :
    let m : Message := ⟨.ofLow 1, some (.ofLow 5), 5, [], 30000, .legacy 2, 0, []⟩
    let applied := small.apply greedy m smallBlock (.ofLimit 100000) true
    applied.1.result = .error (.rejected (.interpreterGasOverflow 9001 9000)) ∧
      applied.2.ledger = small.ledger :=
  ⟨rfl, rejected_leaves_no_trace.2 greedy_wellNested _ _ _ _ _ _ rfl⟩

end Engine

end EvmBank
