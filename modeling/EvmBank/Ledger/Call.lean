import EvmBank.Ledger

/-!
The operations of the ledger as data, each with the type of its reply. They are all that code
running inside a message can do to the ledger: coins can be moved but not issued.
-/

namespace EvmBank

/-- An operation of the ledger. -/
inductive LedgerCall where
  | balance (address : Address) (denom : Denom)
  | transfer (source target : Address) (denom : Denom) (amount : Amount)
  | supply (denom : Denom)
  | nonce (address : Address)
  | setNonce (address : Address) (nonce : Nonce)
  | accountExists (address : Address)
  | code (address : Address)
  | setCode (address : Address) (code : Bytes)
  | openScope
  | commit (scope : Nat)
  | rollback (scope : Nat)
  | grant (granter grantee : Address)
  | setGrant (grant : Grant)
  | revokeGrant (granter grantee : Address)
  | addLog (log : Log)
  | takeLogs

def LedgerCall.Reply : LedgerCall → Type
  | balance .. => Amount
  | transfer .. => Except LedgerError Unit
  | supply .. => Amount
  | nonce .. => Nonce
  | setNonce .. => Unit
  | accountExists .. => Bool
  | code .. => Bytes
  | setCode .. => Unit
  | openScope => Nat
  | commit .. => Except LedgerError Unit
  | rollback .. => Except LedgerError Unit
  | grant .. => Option Grant
  | setGrant .. => Unit
  | revokeGrant .. => Unit
  | addLog .. => Unit
  | takeLogs => List Log

namespace Ledger

/-- The reply of an operation that changes the ledger unless it fails. -/
def attempt (l : Ledger) (changed : Except LedgerError Ledger) : Except LedgerError Unit × Ledger :=
  match changed with
  | .ok l' => (.ok (), l')
  | .error cause => (.error cause, l)

def answer (l : Ledger) : (call : LedgerCall) → call.Reply × Ledger
  | .balance a d => (l.balance a d, l)
  | .transfer source target d amount => l.attempt (l.transfer source target d amount)
  | .supply d => (l.supply d, l)
  | .nonce a => (l.nonce a, l)
  | .setNonce a n => ((), l.setNonce a n)
  | .accountExists a => (l.accountExists a, l)
  | .code a => (l.code a, l)
  | .setCode a code => ((), l.setCode a code)
  | .openScope => (l.depth, l.openScope)
  | .commit scope => l.attempt (l.commit scope)
  | .rollback scope => l.attempt (l.rollback scope)
  | .grant granter grantee => (l.grant? granter grantee, l)
  | .setGrant g => ((), l.setGrant g)
  | .revokeGrant granter grantee => ((), l.revokeGrant granter grantee)
  | .addLog log => ((), l.addLog log)
  | .takeLogs => (l.logs, l.dropLogs)

end Ledger

end EvmBank
