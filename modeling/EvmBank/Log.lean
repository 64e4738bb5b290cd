import EvmBank.Hash

namespace EvmBank

/-- An event that a contract emitted. -/
structure Log where
  address : Address
  topics : List Hash
  data : Bytes
deriving DecidableEq

end EvmBank
