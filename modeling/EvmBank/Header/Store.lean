import EvmBank.Header
import EvmBank.SortedMap

/-!
Headers of past blocks, by height. A store with a retention drops, at every insertion, what is
further back than that below the inserted height.
-/

namespace EvmBank

/-- A header as it was stored: the bytes it came in, and a hash that is zero if none was known. -/
structure StoredHeader where
  height : Height
  hash : Hash
  raw : Bytes
deriving DecidableEq

/-- The stored headers, one for a height. -/
structure HeaderStore where
  headers : SortedMap Height StoredHeader
  retention : Option Height

namespace HeaderStore

/-- A store without headers. Without a retention it keeps every header. -/
def empty (retention : Option Height) : HeaderStore := ⟨.empty, retention⟩

/-- Stores a header under its height, and drops those that are now too far back. -/
def insert (store : HeaderStore) (entry : StoredHeader) : HeaderStore :=
  let headers := store.headers.insert entry.height entry
  match store.retention with
  | none => { store with headers }
  | some keep =>
    let oldest := entry.height.satSub keep
    { store with headers := headers.filter fun height _ => oldest ≤ height }

def record (store : HeaderStore) (header : Header) : HeaderStore :=
  store.insert ⟨header.height, header.hash, header.encode⟩

def get? (store : HeaderStore) (height : Height) : Option StoredHeader := store.headers.get? height

def size (store : HeaderStore) : Nat := store.headers.size

def isEmpty (store : HeaderStore) : Bool := store.headers.isEmpty

end HeaderStore

end EvmBank
