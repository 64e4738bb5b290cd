import EvmBank.Address.Derived
import EvmBank.Fork
import EvmBank.Gas.Floor
import EvmBank.Precompile.Table

/-!
The parameters under which messages are applied, and what makes them unusable.
-/

namespace EvmBank

/-- Who may do something. -/
inductive AccessPolicy where
  | permissionless
  | restricted
  | permissioned (allowed : List Address)
deriving DecidableEq

def AccessPolicy.allows (p : AccessPolicy) (sender : Address) : Bool :=
  match p with
  | permissionless => true
  | restricted => false
  | permissioned allowed => allowed.contains sender

/-- Who may call, and who may deploy contracts. -/
structure AccessControl where
  call : AccessPolicy
  create : AccessPolicy
deriving DecidableEq

namespace AccessControl

/-- Everybody may do everything. -/
def unrestricted : AccessControl := ⟨.permissionless, .permissionless⟩

/-- The policy for a kind of message. -/
def policy (c : AccessControl) (creation : Bool) : AccessPolicy :=
  if creation then c.create else c.call

end AccessControl

inductive ConfigError where
  | parse
  | invalid (reason : String)
  | unknownProposer (proposer : Bytes)
deriving DecidableEq

def ConfigError.message : ConfigError → String
  | parse => "config parse error"
  | invalid reason => "invalid config: " ++ reason
  | unknownProposer proposer => "failed to resolve coinbase for proposer " ++ proposer.full

inductive ParamsFlaw where
  | invalidDenom (denom : Denom)
  | forkOrder (earlier later : Fork)
  | zeroCollector
  | zeroDenominator
  | multiplierAboveOne
  | zeroApproval
  | duplicatePrecompile (address : Address)
deriving DecidableEq

def ParamsFlaw.message : ParamsFlaw → String
  | invalidDenom denom => "evm_denom " ++ Text.quoted denom ++ " is not a valid denomination"
  | forkOrder earlier later => "fork " ++ later.name ++ " activates before " ++ earlier.name
  | zeroCollector => "fee_collector cannot be zero"
  | zeroDenominator => "min_gas_multiplier denominator cannot be 0"
  | multiplierAboveOne => "min_gas_multiplier must be between 0 and 1"
  | zeroApproval => "approval_expiration_secs cannot be 0"
  | duplicatePrecompile address => s!"precompile {address} listed more than once"

/-- The parameters under which messages are applied. -/
structure Params where
  evmDenom : Denom
  forks : ForkSchedule
  feeCollector : Address
  /-- The share of the gas limit that is always charged. -/
  minGasMultiplier : GasMultiplier
  accessControl : AccessControl
  /-- How long a grant lasts that a token creates. -/
  approvalSeconds : Seconds
  tokens : TokenListing
deriving DecidableEq

namespace Params

def standardApproval : Seconds := 31536000

/-- The parameters where nothing else is said. -/
def standard : Params where
  evmDenom := "aledger"
  forks := .allActive
  feeCollector := Address.ofModule "fee_collector"
  minGasMultiplier := .half
  accessControl := .unrestricted
  approvalSeconds := standardApproval
  tokens := .standard

/-- The first flaw that is found. -/
def firstFlaw (p : Params) : Option ParamsFlaw :=
  if !Denom.isValid p.evmDenom then some (.invalidDenom p.evmDenom)
  else
    match p.forks.firstDisorder with
    | some (earlier, later) => some (.forkOrder earlier later)
    | none =>
      if p.feeCollector.isZero then some .zeroCollector
      else if p.minGasMultiplier.denominator.isZero then some .zeroDenominator
      else if p.minGasMultiplier.denominator < p.minGasMultiplier.numerator then
        some .multiplierAboveOne
      else if p.approvalSeconds.isZero then some .zeroApproval
      else p.tokens.firstDuplicate.map .duplicatePrecompile

def validate (p : Params) : Except ConfigError Unit :=
  match p.firstFlaw with
  | some flaw => .error (.invalid flaw.message)
  | none => .ok ()

end Params

end EvmBank
