import EvmBank.Params

/-!
The first state of the token bridge: which tokens are listed, and which pairs are registered. The
lists are checked against the pairs also where tokens are not enabled, since they count as soon as
tokens are.
-/

namespace EvmBank

structure Genesis where
  tokens : TokenListing
  pairs : List TokenPair
deriving DecidableEq

inductive GenesisError where
  | parse
  | registry (cause : RegistryError)
  | config (cause : ConfigError)
deriving DecidableEq

def GenesisError.message : GenesisError → String
  | parse => "genesis parse error"
  | registry cause => cause.message
  | config cause => cause.message

namespace Genesis

/-- The registry of the pairs, if it can be built and agrees with the lists. -/
def registry (g : Genesis) : Except RegistryError Registry := do
  let r ← Registry.ofList g.pairs
  if let some a := g.tokens.firstDuplicate then
    throw (.duplicatePrecompile a)
  let _ ← PrecompileTable.build r { g.tokens with enabled := true } Params.standardApproval
  return r

/-- The lists and the registry, if they agree. -/
def parts (g : Genesis) : Except GenesisError (TokenListing × Registry) :=
  match g.registry with
  | .ok r => .ok (g.tokens, r)
  | .error cause => .error (.registry cause)

/-- The state that a listing and a registry are the parts of. -/
def ofParts (tokens : TokenListing) (r : Registry) : Genesis := ⟨tokens, r.toList⟩

end Genesis

end EvmBank
