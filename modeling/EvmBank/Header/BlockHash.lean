import EvmBank.Header.Store
import EvmBank.Message

/-!
The hash of a block as it is seen from another block. A hash that is not known, or that does not
fit the header it stands beside, is zero; it is never an error.
-/

namespace EvmBank

/-- The hash of the block itself: the one that is given, or that of its encoded header. -/
def Block.ownHash (b : Block) : Hash :=
  match b.headerHash.filter fun h => !h.isZero with
  | some h => h
  | none =>
    match b.rawHeader.bind Header.decode? with
    | some header => if header.isValid then header.hash else Hash.zero
    | none => Hash.zero

/-- The hash of a stored header, if it is valid, is that of the height, and has the hash that is
stored with it. -/
def StoredHeader.checkedHash (entry : StoredHeader) (height : Height) : Hash :=
  match Header.decode? entry.raw with
  | some header =>
    if header.isValid && header.height = height && (entry.hash.isZero || entry.hash = header.hash)
    then header.hash
    else Hash.zero
  | none => Hash.zero

/-- The hash of the block at a height, as it is seen from the block `b`. -/
def HeaderStore.blockHash (store : HeaderStore) (b : Block) (height : Height) : Hash :=
  if height = b.height then b.ownHash
  else if height < b.height then
    match store.get? height with
    | some entry => entry.checkedHash height
    | none => Hash.zero
  else Hash.zero

end EvmBank
