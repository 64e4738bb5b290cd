import EvmBank.Fee
import EvmBank.Hash

/-!
Messages, and the block that they are applied in.
-/

namespace EvmBank

/-- An account of an access list, with the storage keys that will be used. -/
structure AccessTuple where
  address : Address
  storageKeys : List Hash
deriving DecidableEq

/-- A message of which the sender is known. -/
structure Message where
  sender : Address
  /-- Without a recipient the message deploys a contract. -/
  recipient : Option Address
  value : Amount
  /-- Calldata, or the code of the contract to deploy. -/
  data : Bytes
  gasLimit : Gas
  fee : FeeTerms
  nonce : Nonce
  accessList : List AccessTuple
deriving DecidableEq

def Message.isCreation (m : Message) : Bool := m.recipient.isNone

/-- The block that messages are applied in. -/
structure Block where
  height : Height
  time : Seconds
  /-- The consensus address of the proposer. -/
  proposer : Bytes
  chainId : Quantity 64
  baseFee : Option Amount
  /-- The hash of the block's own header, where it is known. -/
  headerHash : Option Hash
  /-- The encoding of the block's own header, where it is known. -/
  rawHeader : Option Bytes
deriving DecidableEq

end EvmBank
