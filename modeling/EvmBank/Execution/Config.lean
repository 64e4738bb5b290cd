import EvmBank.Header.BlockHash
import EvmBank.Params

/-!
What the execution of a message has to know of its surroundings, found out before it begins.
-/

namespace EvmBank

/-- The validators of the host: who is credited for the blocks of a consensus address. -/
abbrev ValidatorSet := SortedMap Bytes Address

structure ExecutionConfig where
  rules : ChainRules
  coinbase : Address
  baseFee : Option Amount
  precompiles : PrecompileTable
  traced : Bool
  accessControl : AccessControl
  evmDenom : Denom
  feeCollector : Address
  minGasMultiplier : GasMultiplier
deriving DecidableEq

namespace ExecutionConfig

/-- The proposer that is credited: the given one, or else that of the block. -/
def proposerFor (proposer : Bytes) (b : Block) : Bytes :=
  if proposer.isEmpty then b.proposer else proposer

/-- The configuration for a block. The proposer has to be a known validator. -/
def build (p : Params) (b : Block) (proposer : Bytes) (validators : ValidatorSet)
    (precompiles : PrecompileTable) (traced : Bool) : Except ConfigError ExecutionConfig :=
  let proposer := proposerFor proposer b
  match validators.get? proposer with
  | none => .error (.unknownProposer proposer)
  | some coinbase => .ok
    { rules := p.forks.rules b.chainId b.height
      coinbase
      baseFee := b.baseFee
      precompiles
      traced
      accessControl := p.accessControl
      evmDenom := p.evmDenom
      feeCollector := p.feeCollector
      minGasMultiplier := p.minGasMultiplier }

/-- A record as text: its name, and its fields in braces. -/
def describeRecord (name : String) (fields : List (String × String)) (isComplete : Bool) : String :=
  let items := fields.map fun f => f.1 ++ ": " ++ f.2
  let rest := if isComplete then [] else [".."]
  name ++ " \x7b " ++ ", ".intercalate (items ++ rest) ++ " \x7d"

def describeBool (b : Bool) : String := if b then "true" else "false"

def describePolicy : AccessPolicy → String
  | .permissionless => "Permissionless"
  | .restricted => "Restricted"
  | .permissioned allowed =>
    "Permissioned([" ++ ", ".intercalate (allowed.map Address.toHex) ++ "])"

def describeRules (r : ChainRules) : String :=
  describeRecord "ChainRules"
    [("chain_id", r.chainId.decimal), ("is_homestead", describeBool r.homestead),
      ("is_istanbul", describeBool r.istanbul), ("is_berlin", describeBool r.berlin),
      ("is_london", describeBool r.london), ("is_shanghai", describeBool r.shanghai)] true

/-- The configuration as text, without the account and the share that fees are about. -/
def describe (c : ExecutionConfig) : String :=
  let baseFee := match c.baseFee with
    | some price => s!"Some({price})"
    | none => "None"
  let policies :=
    [("call", describePolicy c.accessControl.call), ("create", describePolicy c.accessControl.create)]
  describeRecord "ExecutionConfig"
    [("rules", describeRules c.rules), ("coinbase", c.coinbase.toHex), ("base_fee", baseFee),
      ("precompiles", c.precompiles.describe), ("tracer", describeBool c.traced),
      ("access_control", describeRecord "AccessControl" policies true),
      ("evm_denom", Text.quoted c.evmDenom)] false

end ExecutionConfig

end EvmBank
