import EvmBank.Precompile.Token
import EvmBank.Registry

/-!
The precompiled contracts of one block: the tokens that the parameters list, in ascending order of
their addresses and found by halving. Every listed address has to be registered, under the kind of
owner whose list it is on, and no address may be listed twice; pairs that are disabled are left
out of the table.
-/

namespace EvmBank

/-- Which tokens can be called. -/
structure TokenListing where
  /-- Without it no token can be called. -/
  enabled : Bool
  native : List Address
  dynamic : List Address
deriving DecidableEq

namespace TokenListing

/-- Tokens can be called, but none is listed. -/
def standard : TokenListing := ⟨true, [], []⟩

/-- The first address of a list that occurs earlier in it, or among those seen before. -/
def firstRepeated : (seen : List Address) → List Address → Option Address
  | _, [] => none
  | seen, a :: rest => if seen.contains a then some a else firstRepeated (a :: seen) rest

/-- The first address that is listed a second time. -/
def firstDuplicate (listing : TokenListing) : Option Address :=
  firstRepeated [] (listing.native ++ listing.dynamic)

/-- All listed addresses, with the kind of owner whose list they are on. -/
def entries (listing : TokenListing) : List (Address × OwnerKind) :=
  listing.native.map (·, .module) ++ listing.dynamic.map (·, .external)

end TokenListing

structure TableEntry where
  owner : OwnerKind
  token : Token
deriving DecidableEq

def TableEntry.address (e : TableEntry) : Address := e.token.address

/-- The tokens that can be called, in ascending order of their addresses. -/
structure PrecompileTable where
  entries : Array TableEntry
deriving DecidableEq

namespace PrecompileTable

def empty : PrecompileTable := ⟨#[]⟩

/-- The entry for a listed address; a disabled pair has none. -/
def entryFor (r : Registry) (approvalSeconds : Seconds) (a : Address) (listed : OwnerKind) :
    Except RegistryError (Option TableEntry) :=
  match r.lookupAddress a with
  | none => .error (.unregisteredPrecompile a)
  | some pair =>
    if pair.owner ≠ listed then .error (.ownerMismatch a listed pair.owner)
    else if pair.enabled then .ok (some ⟨listed, ⟨a, pair.denom, approvalSeconds⟩⟩)
    else .ok none

/-- The entries for listed addresses, in their order; `seen` are those listed before. -/
def entriesFor (r : Registry) (approvalSeconds : Seconds) :
    (seen : List Address) → List (Address × OwnerKind) → Except RegistryError (List TableEntry)
  | _, [] => .ok []
  | seen, (a, listed) :: rest => do
    if seen.contains a then
      .error (.duplicatePrecompile a)
    let entry ← entryFor r approvalSeconds a listed
    let others ← entriesFor r approvalSeconds (a :: seen) rest
    return entry.toList ++ others

/-- Puts an entry in front of the first one with a greater address. -/
def place (e : TableEntry) : List TableEntry → List TableEntry
  | [] => [e]
  | d :: rest => if compare e.address d.address = .gt then d :: place e rest else e :: d :: rest

def build (r : Registry) (listing : TokenListing) (approvalSeconds : Seconds) :
    Except RegistryError PrecompileTable := do
  if !listing.enabled then
    return empty
  let listed ← entriesFor r approvalSeconds [] listing.entries
  return ⟨(listed.foldr place []).toArray⟩

/-- Looks for an address among the `count` entries from `low` on, of which the middle one tells
where to go on. -/
def search (entries : Array TableEntry) (a : Address) : (fuel low count : Nat) → Option TableEntry
  | 0, _, _ => none
  | fuel + 1, low, count =>
    if count = 0 then none
    else
      let middle := low + count / 2
      match entries[middle]? with
      | none => none
      | some e =>
        match compare a e.address with
        | .lt => search entries a fuel low (count / 2)
        | .eq => some e
        | .gt => search entries a fuel (middle + 1) (count - count / 2 - 1)

def entry? (t : PrecompileTable) (a : Address) : Option TableEntry :=
  search t.entries a t.entries.size 0 t.entries.size

def lookup (t : PrecompileTable) (a : Address) : Option Token := (t.entry? a).map (·.token)

def contains (t : PrecompileTable) (a : Address) : Bool := (t.entry? a).isSome

def addresses (t : PrecompileTable) : List Address := t.entries.toList.map (·.address)

def count (t : PrecompileTable) (kind : OwnerKind) : Nat := t.entries.toList.countP (·.owner = kind)

def size (t : PrecompileTable) : Nat := t.entries.size

def isEmpty (t : PrecompileTable) : Bool := t.entries.isEmpty

/-- Runs a call in a scope of its own, which is kept if the call succeeds and rolled back if it
fails. An error in closing the scope counts before the result of the call. -/
def runScoped (t : Token) (call : PrecompileCall) (l : Ledger) :
    Except PrecompileError PrecompileOutput × Ledger :=
  let scope := l.depth
  let (result, ran) := (t.run call).run.run l.openScope
  let closed := match result with
    | .ok _ => ran.commit scope
    | .error _ => ran.rollback scope
  match closed with
  | .ok l => (result, l)
  | .error cause => (.error (.ledger cause), ran)

/-- Runs the call of the token at an address, if there is one. -/
def dispatch (t : PrecompileTable) (a : Address) (call : PrecompileCall) (l : Ledger) :
    Option (Except PrecompileError PrecompileOutput) × Ledger :=
  match t.lookup a with
  | none => (none, l)
  | some token =>
    let (result, l) := runScoped token call l
    (some result, l)

/-- The addresses of the table with the kinds of their owners, as one text. -/
def describe (t : PrecompileTable) : String :=
  let item (e : TableEntry) : String :=
    let kind := match e.owner with
      | .module => "Module"
      | .external => "External"
    s!"({e.address}, {kind})"
  "[" ++ ", ".intercalate (t.entries.toList.map item) ++ "]"

end PrecompileTable

end EvmBank
