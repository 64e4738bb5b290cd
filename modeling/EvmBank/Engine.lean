import EvmBank.Engine.Transition

/-!
The engine: the ledger with all that messages need to be applied to it. The table of precompiled
contracts is kept for the height that it was built for, until the registry or the parameters are
touched.
-/

namespace EvmBank

structure Engine where
  ledger : Ledger
  headers : HeaderStore
  validators : ValidatorSet
  params : Params
  registry : Registry
  /-- The last table that was built, and the height that it was built for. -/
  kept : Option (Height × PrecompileTable)
  /-- Whether an observer is told of every message. -/
  traced : Bool
  /-- Who is credited for blocks; if empty, the proposer of each. -/
  proposer : Bytes

/-- What an observer is told. -/
inductive Event where
  | start (nonce : Nonce) (height : Height)
  | finish (gasUsed : Gas) (reverted : Bool)
deriving DecidableEq

/-- What applying a message came to, beside the engine after it. -/
structure Outcome (ν : Type) where
  result : Except Stop Receipt
  meter : Meter
  /-- The notes of the interpreter, if it ran. -/
  notes : Option ν
  events : List Event

namespace Engine

def create (ledger : Ledger) (headers : HeaderStore) (validators : ValidatorSet) (params : Params)
    (registry : Registry) : Except ConfigError Engine := do
  params.validate
  return ⟨ledger, headers, validators, params, registry, none, false, []⟩

/-- An engine with the tokens of a first state instead of those in the parameters. -/
def ofGenesis (ledger : Ledger) (headers : HeaderStore) (validators : ValidatorSet)
    (params : Params) (genesis : Genesis) : Except GenesisError Engine := do
  let (tokens, registry) ← genesis.parts
  (create ledger headers validators { params with tokens } registry).mapError .config

def observed (e : Engine) : Engine := { e with traced := true }

def setProposer (e : Engine) (proposer : Bytes) : Engine := { e with proposer }

/-- Opens the registry for a change: the table that was kept counts no longer. -/
def touchRegistry (e : Engine) : Engine := { e with kept := none }

def register (e : Engine) (pair : TokenPair) : Except RegistryError Unit × Engine :=
  match e.registry.register pair with
  | .ok registry => (.ok (), { e.touchRegistry with registry })
  | .error cause => (.error cause, e.touchRegistry)

/-- Enables or disables the pair that a key names. -/
def toggle (e : Engine) (key : String) : Except RegistryError TokenPair × Engine :=
  match e.registry.toggle key with
  | .ok (pair, registry) => (.ok pair, { e.touchRegistry with registry })
  | .error cause => (.error cause, e.touchRegistry)

/-- Replaces the parameters by valid ones. -/
def updateParams (e : Engine) (params : Params) : Except ConfigError Unit × Engine :=
  match params.validate with
  | .ok () => (.ok (), { e with params, kept := none })
  | .error cause => (.error cause, e)

def buildTable (e : Engine) (height : Height) : Except TransitionError PrecompileTable × Engine :=
  match PrecompileTable.build e.registry e.params.tokens e.params.approvalSeconds with
  | .ok table => (.ok table, { e with kept := some (height, table) })
  | .error cause => (.error (.registry cause), e)

/-- The table of a height: the one that is kept, if it is of this height. -/
def tableFor (e : Engine) (height : Height) : Except TransitionError PrecompileTable × Engine :=
  match e.kept with
  | some (built, table) => if built = height then (.ok table, e) else e.buildTable height
  | none => e.buildTable height

/-- The first state that the engine could be started from again. -/
def genesis (e : Engine) : Genesis := Genesis.ofParts e.params.tokens e.registry

def tell (e : Engine) (events : List Event) : List Event := if e.traced then events else []

/-- An outcome of which nothing but the result is to be reported. -/
def refusal {ν : Type} (meter : Meter) (cause : TransitionError) : Outcome ν :=
  ⟨.error (.rejected cause), meter, none, []⟩

/-- Runs a message that passed the checks in a scope, which is rolled back if the message stops,
and otherwise closed as `keep` says. -/
def applyChecked {ν : Type} (e : Engine) (interpreter : Interpreter ν) (c : ExecutionConfig)
    (m : Message) (b : Block) (meter : Meter) (keep : Bool) (price : Amount) (intrinsic : Gas) :
    Outcome ν × Engine :=
  let scope := e.ledger.depth
  let host : Host := ⟨e.headers, b, c.precompiles⟩
  let started := Event.start m.nonce b.height
  let (result, p) :=
    (Transition.apply interpreter host c m price intrinsic).run.run ⟨e.ledger.openScope, meter, none⟩
  match result with
  | .error (.fault fault) =>
    (⟨.error (.fault fault), p.meter, p.notes, e.tell [started]⟩, { e with ledger := p.ledger })
  | .error (.rejected cause) =>
    let (cause, l) := match p.ledger.rollback scope with
      | .ok l => (cause, l)
      | .error closing => (.ledger closing, p.ledger)
    (⟨.error (.rejected cause), p.meter, p.notes, e.tell [started]⟩, { e with ledger := l })
  | .ok receipt =>
    match if keep then p.ledger.commit scope else p.ledger.rollback scope with
    | .ok l =>
      let finished := Event.finish receipt.gasUsed receipt.reverted
      (⟨.ok receipt, p.meter, p.notes, e.tell [started, finished]⟩, { e with ledger := l })
    | .error closing =>
      (⟨.error (.rejected (.ledger closing)), p.meter, p.notes, e.tell [started]⟩,
        { e with ledger := p.ledger })

/-- Applies a message. What it changes is kept if `keep` holds; otherwise only its outcome is of
use. -/
def apply {ν : Type} (e : Engine) (interpreter : Interpreter ν) (m : Message) (b : Block)
    (meter : Meter) (keep : Bool) : Outcome ν × Engine :=
  let (table, e) := e.tableFor b.height
  match table with
  | .error cause => (refusal meter cause, e)
  | .ok table =>
    match ExecutionConfig.build e.params b e.proposer e.validators table e.traced with
    | .error cause => (refusal meter (.config cause), e)
    | .ok c =>
      match m.precheck c e.ledger meter.limit with
      | .error cause => (refusal meter cause, e)
      | .ok (price, intrinsic) =>
        e.applyChecked interpreter c m b meter keep price intrinsic

end Engine

end EvmBank
