import EvmBank.Ledger.Books
import EvmBank.Log

/-!
The ledger: the books, a buffer of logs, and nested scopes. What is written while a scope is open
can be rolled back with it: a journal remembers what every written cell held before, and the scope
how long the journal was, and how many logs were buffered. A scope is named by the number of scopes
around it, and only the innermost one can be closed.
-/

namespace EvmBank

inductive LedgerError where
  | insufficientFunds (address : Address) (denom : Denom) (required available : Amount)
  | unknownAccount (address : Address)
  | overflow
  | noOpenScope
  | scopeMismatch (innermost got : Nat)
deriving DecidableEq

def LedgerError.message : LedgerError → String
  | insufficientFunds address denom required available =>
    s!"insufficient funds in {address}: {available}{denom} < {required}{denom}"
  | unknownAccount address => s!"account {address} does not exist"
  | overflow => "balance overflow"
  | noOpenScope => "no open write scope"
  | scopeMismatch innermost got => s!"scope mismatch: innermost is {innermost}, got {got}"

/-- An open scope: what there was when it was opened. -/
structure Scope where
  journalLength : Nat
  logCount : Nat

/-- The books with what is in progress on them. -/
structure Ledger where
  books : Books
  /-- The buffered logs in the order of their emission. -/
  logs : List Log
  /-- What the cells that were written inside scopes held before, the last write first. -/
  journal : List Cell
  /-- The open scopes, the innermost first. -/
  scopes : List Scope

namespace Ledger

def empty : Ledger := ⟨.empty, [], [], []⟩

instance : Inhabited Ledger := ⟨empty⟩

def accountExists (l : Ledger) (a : Address) : Bool := l.books.isOpen a

def balance (l : Ledger) (a : Address) (d : Denom) : Amount := l.books.balance a d

def supply (l : Ledger) (d : Denom) : Amount := l.books.supply d

def nonce (l : Ledger) (a : Address) : Nonce := l.books.nonce a

def code (l : Ledger) (a : Address) : Bytes := l.books.code a

def grant? (l : Ledger) (granter grantee : Address) : Option Grant := l.books.grant? granter grantee

def depth (l : Ledger) : Nat := l.scopes.length

/-- Writes a cell; while a scope is open, the journal remembers what the cell held. -/
def write (l : Ledger) (c : Cell) : Ledger :=
  { l with
    books := l.books.put c
    journal := if l.scopes.isEmpty then l.journal else l.books.current c :: l.journal }

/-- Opens an account, if there is none. -/
def openAccount (l : Ledger) (a : Address) : Ledger :=
  if l.accountExists a then l else l.write (.account a (some ()))

/-- Issues new coins to an account. Balance and supply stop at the greatest amount. -/
def mint (l : Ledger) (a : Address) (d : Denom) (amount : Amount) : Ledger :=
  (l.openAccount a
    |>.write (.balance a d (some ((l.balance a d).satAdd amount))))
    |>.write (.supply d (some ((l.supply d).satAdd amount)))

/-- Moves coins, and opens the account that receives them. Moving coins to where they are changes
nothing. -/
def transfer (l : Ledger) (source target : Address) (d : Denom) (amount : Amount) :
    Except LedgerError Ledger :=
  let available := l.balance source d
  match available.sub? amount with
  | none => .error (.insufficientFunds source d amount available)
  | some remaining =>
    if source = target then .ok l
    else
      match (l.balance target d).add? amount with
      | none => .error .overflow
      | some credited =>
        .ok (l.openAccount target
          |>.write (.balance source d (some remaining))
          |>.write (.balance target d (some credited)))

/-- Sets a nonce, and opens the account. -/
def setNonce (l : Ledger) (a : Address) (nonce : Nonce) : Ledger :=
  l.openAccount a |>.write (.nonce a (some nonce))

/-- Stores the code of a contract, and opens its account. -/
def setCode (l : Ledger) (a : Address) (code : Bytes) : Ledger :=
  l.openAccount a |>.write (.code a (some code))

/-- Stores a grant, instead of one between the same accounts. -/
def setGrant (l : Ledger) (g : Grant) : Ledger :=
  l.write (.grant g.granter g.grantee (some g) (Cell.filed_some g))

/-- Drops a grant, if there is one. -/
def revokeGrant (l : Ledger) (granter grantee : Address) : Ledger :=
  if (l.grant? granter grantee).isSome then
    l.write (.grant granter grantee none (Cell.filed_none granter grantee))
  else l

def addLog (l : Ledger) (log : Log) : Ledger := { l with logs := l.logs ++ [log] }

def dropLogs (l : Ledger) : Ledger := { l with logs := [] }

/-- Opens a scope, whose name is the depth before. -/
def openScope (l : Ledger) : Ledger :=
  { l with scopes := ⟨l.journal.length, l.logs.length⟩ :: l.scopes }

/-- The scopes around the innermost one, which has to be `scope`, and that one itself. -/
def innermost (l : Ledger) (scope : Nat) : Except LedgerError (Scope × List Scope) :=
  match l.scopes with
  | [] => .error .noOpenScope
  | s :: outer =>
    if outer.length = scope then .ok (s, outer) else .error (.scopeMismatch outer.length scope)

/-- Closes a scope and keeps what was written in it. Without an open scope nothing has to be
remembered. -/
def commit (l : Ledger) (scope : Nat) : Except LedgerError Ledger := do
  let (_, outer) ← l.innermost scope
  return { l with journal := if outer.isEmpty then [] else l.journal, scopes := outer }

/-- Closes a scope, undoes what was written in it, and drops the logs behind those that were
buffered when it was opened. -/
def rollback (l : Ledger) (scope : Nat) : Except LedgerError Ledger := do
  let (s, outer) ← l.innermost scope
  let written := l.journal.length - s.journalLength
  return {
    books := (l.journal.take written).foldl Books.put l.books
    logs := l.logs.take s.logCount
    journal := l.journal.drop written
    scopes := outer }

end Ledger

end EvmBank
