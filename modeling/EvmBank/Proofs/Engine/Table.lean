import EvmBank.Proofs.Engine.GasCharge

/-!
# The table that is kept

A table is kept for its height, though it comes from the registry and the parameters. It is never out
of date, since whatever changes these gives the table up: a kept table is the one that would be built
now (`Fresh`), in every engine in use (`Built.fresh`). So asking for the table of a height gives what
building it gives (`table_is_current`).
-/

namespace EvmBank.Engine

/-- The table that the registry and the parameters come to. -/
def currentTable (e : Engine) : Except RegistryError PrecompileTable :=
  PrecompileTable.build e.registry e.params.tokens e.params.approvalSeconds

/-- If a table is kept, it is the current one. -/
def Fresh (e : Engine) : Prop :=
  ∀ height table, e.kept = some (height, table) → e.currentTable = .ok table

variable {e : Engine}

theorem Fresh.of_none (h : e.kept = none) : e.Fresh := by
  intro height table hkept
  cases h.symm.trans hkept

/-! ## Finding a table -/

theorem buildTable_fst (e : Engine) (height : Height) :
    (e.buildTable height).1 = e.currentTable.mapError .registry := by
  unfold buildTable currentTable
  cases PrecompileTable.build e.registry e.params.tokens e.params.approvalSeconds <;> rfl

/-- A table is kept as it was built, and an error leaves what was kept before. -/
theorem Fresh.buildTable (he : e.Fresh) (height : Height) : (e.buildTable height).2.Fresh := by
  unfold Engine.buildTable
  cases hbuild : PrecompileTable.build e.registry e.params.tokens e.params.approvalSeconds with
  | error cause => exact he
  | ok table =>
    intro _ _ hkept
    cases hkept
    exact hbuild

theorem Fresh.tableFor_fst (he : e.Fresh) (height : Height) :
    (e.tableFor height).1 = e.currentTable.mapError .registry := by
  rcases tableFor_cases e height with ⟨table, hkept, htable⟩ | hbuild
  · rw [htable, he height table hkept]
    rfl
  · rw [hbuild, buildTable_fst]

theorem Fresh.tableFor (he : e.Fresh) (height : Height) : (e.tableFor height).2.Fresh := by
  rcases tableFor_cases e height with ⟨table, -, htable⟩ | hbuild
  · rw [htable]
    exact he
  · rw [hbuild]
    exact he.buildTable height

/-! ## Using an engine -/

theorem Fresh.updateParams (he : e.Fresh) (params : Params) : (e.updateParams params).2.Fresh := by
  unfold Engine.updateParams
  split
  · exact .of_none rfl
  · exact he

theorem Fresh.register (e : Engine) (pair : TokenPair) : (e.register pair).2.Fresh := by
  unfold Engine.register
  split
  · exact .of_none rfl
  · exact .of_none rfl

theorem Fresh.toggle (e : Engine) (key : String) : (e.toggle key).2.Fresh := by
  unfold Engine.toggle
  split
  · exact .of_none rfl
  · exact .of_none rfl

theorem Built.fresh (he : e.Built) : e.Fresh := by
  induction he with
  | create h =>
    obtain ⟨-, rfl⟩ := create_eq_ok.mp h
    exact .of_none rfl
  | ofGenesis h =>
    obtain ⟨_, -, hcreate⟩ := ofGenesis_eq_ok.mp h
    obtain ⟨-, rfl⟩ := create_eq_ok.mp hcreate
    exact .of_none rfl
  | updateParams params _ ih => exact ih.updateParams params
  | register pair _ _ => exact .register _ pair
  | toggle key _ _ => exact .toggle _ key
  | tableFor height _ ih => exact ih.tableFor height
  | apply interpreter m b meter keep _ ih =>
    obtain ⟨ledger, hsnd⟩ := apply_snd_tableFor _ interpreter m b meter keep
    rw [hsnd]
    exact ih.tableFor b.height
  | setProposer _ _ ih | observed _ ih | useLedger _ _ ih | useHeaders _ _ ih => exact ih

/-- A message that is admitted is run with the current table. -/
theorem Fresh.currentTable_of_admits (he : e.Fresh) {m : Message} {b : Block} {meter : Meter}
    {c : ExecutionConfig} {price : Amount} {intrinsic : Gas}
    (ha : e.Admits m b meter c price intrinsic) : e.currentTable = .ok c.precompiles := by
  have htable := he.tableFor_fst b.height
  rw [ha.table] at htable
  cases hcurrent : e.currentTable with
  | error cause =>
    rw [hcurrent] at htable
    cases htable
  | ok table =>
    rw [hcurrent] at htable
    cases htable
    rfl

/-- Whatever was done with an engine, at every height it has the table, or the error, that building
the table from its registry and its parameters would now come to; and both stay as they are. Messages
are run with this table. -/
theorem table_is_current (he : e.Built) (height : Height) :
    (e.tableFor height).1 =
        (PrecompileTable.build e.registry e.params.tokens e.params.approvalSeconds).mapError
          TransitionError.registry ∧
      (∃ kept, (e.tableFor height).2 = { e with kept }) ∧
      ∀ {m b meter c price intrinsic}, e.Admits m b meter c price intrinsic →
        PrecompileTable.build e.registry e.params.tokens e.params.approvalSeconds =
          .ok c.precompiles :=
  ⟨he.fresh.tableFor_fst height, tableFor_snd e height, he.fresh.currentTable_of_admits⟩

/-- The table of a height is found, the one token in it is disabled, and there is no token any more in
the table that is found for the same height. -/
theorem toggled_table_is_current :
    (small.tableFor 1).1.toOption.map PrecompileTable.size = some 1 ∧
      (((small.tableFor 1).2.toggle "aledger").2.tableFor 1).1 = .ok .empty := by
  have hbuilt : ((small.tableFor 1).2.toggle "aledger").2.Built :=
    .toggle "aledger" (.tableFor 1 small_built)
  obtain ⟨htable, -⟩ := table_is_current hbuilt 1
  exact ⟨by decide +kernel, htable.trans (by decide +kernel)⟩

end EvmBank.Engine
