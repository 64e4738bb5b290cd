import EvmBank.Proofs.Ledger.Operations
import EvmBank.Proofs.Ledger.Scopes

/-!
# The ledger as a stack of copies

A plain ledger that keeps no journal: opening a scope puts a whole copy of the books aside, a commit
drops the copy, and a rollback takes it back. The journaled ledger matches it (`Matches.perform`):
every open scope was opened on a ledger with just the books that were copied (`Nested`), and the
journal leads back there. Hence both do the same on every sequence of steps
(`agrees_with_snapshots`).
-/

namespace EvmBank

/-- A step of a ledger, from a message or from the program around it. -/
inductive LedgerStep where
  | mint (address : Address) (denom : Denom) (amount : Amount)
  | openAccount (address : Address)
  | call (call : LedgerCall)

def LedgerStep.Reply : LedgerStep → Type
  | mint .. => Unit
  | openAccount _ => Unit
  | call c => c.Reply

namespace Ledger

def perform (l : Ledger) : (step : LedgerStep) → step.Reply × Ledger
  | .mint a d amount => ((), l.mint a d amount)
  | .openAccount a => ((), l.openAccount a)
  | .call c => l.answer c

/-- The ledger after some steps. -/
def after (l : Ledger) (steps : List LedgerStep) : Ledger :=
  steps.foldl (fun l step => (l.perform step).2) l

end Ledger

/-- The books that are put aside when a scope is opened. The logs are not copied; it is noted how
many there are. -/
structure Copy where
  books : Books
  logCount : Nat

/-- A ledger that keeps whole copies. -/
structure SnapshotLedger where
  books : Books
  logs : List Log
  /-- One copy for each open scope, the innermost first. -/
  copies : List Copy

namespace SnapshotLedger

def empty : SnapshotLedger := ⟨.empty, [], []⟩

/-- The innermost copy, which has to be that of `scope`, and those around it. -/
def innermost (s : SnapshotLedger) (scope : Nat) : Except LedgerError (Copy × List Copy) :=
  match s.copies with
  | [] => .error .noOpenScope
  | copy :: outer =>
    if outer.length = scope then .ok (copy, outer)
    else .error (.scopeMismatch outer.length scope)

def answer (s : SnapshotLedger) : (call : LedgerCall) → call.Reply × SnapshotLedger
  | .balance a d => (s.books.balance a d, s)
  | .transfer source target d amount =>
    match s.books.transfer source target d amount with
    | .ok books => (.ok (), { s with books })
    | .error cause => (.error cause, s)
  | .supply d => (s.books.supply d, s)
  | .nonce a => (s.books.nonce a, s)
  | .setNonce a n => ((), { s with books := s.books.setNonce a n })
  | .accountExists a => (s.books.isOpen a, s)
  | .code a => (s.books.code a, s)
  | .setCode a code => ((), { s with books := s.books.setCode a code })
  | .openScope =>
    (s.copies.length, { s with copies := ⟨s.books, s.logs.length⟩ :: s.copies })
  | .commit scope =>
    match s.innermost scope with
    | .ok (_, outer) => (.ok (), { s with copies := outer })
    | .error cause => (.error cause, s)
  | .rollback scope =>
    match s.innermost scope with
    | .ok (copy, outer) => (.ok (), ⟨copy.books, s.logs.take copy.logCount, outer⟩)
    | .error cause => (.error cause, s)
  | .grant granter grantee => (s.books.grant? granter grantee, s)
  | .setGrant g => ((), { s with books := s.books.setGrant g })
  | .revokeGrant granter grantee => ((), { s with books := s.books.revokeGrant granter grantee })
  | .addLog log => ((), { s with logs := s.logs ++ [log] })
  | .takeLogs => (s.logs, { s with logs := [] })

def perform (s : SnapshotLedger) : (step : LedgerStep) → step.Reply × SnapshotLedger
  | .mint a d amount => ((), { s with books := s.books.mint a d amount })
  | .openAccount a => ((), { s with books := s.books.openAccount a })
  | .call c => s.answer c

/-- The ledger after some steps. -/
def after (s : SnapshotLedger) (steps : List LedgerStep) : SnapshotLedger :=
  steps.foldl (fun s step => (s.perform step).2) s

end SnapshotLedger

namespace Ledger

/-! ## Matching -/

/-- Every open scope was opened on a ledger that the journal leads back to, and of which `copies`
holds the books; outside all scopes there is no journal. -/
inductive Nested : Ledger → List Copy → Prop
  | outside {l : Ledger} : l.scopes = [] → l.journal = [] → Nested l []
  | inside {base l : Ledger} {copies : List Copy} : base.Within l → l.depth = base.depth + 1 →
      Nested base copies → Nested l (⟨base.books, base.logs.length⟩ :: copies)

namespace Nested

variable {l l' : Ledger} {copies : List Copy}

theorem depth_eq (h : Nested l copies) : l.depth = copies.length := by
  induction h with
  | outside hs _ => exact congrArg List.length hs
  | inside _ hd _ ih => exact hd.trans (congrArg Nat.succ ih)

theorem write (h : Nested l copies) (c : Cell) : Nested (l.write c) copies := by
  cases h with
  | outside hs hj => exact .outside hs (by simp [Ledger.write, hs, hj])
  | inside hw hd ho => exact .inside (hw.write c) hd ho

/-- Only what a rollback leads back to counts, and not what is buffered. -/
theorem with_logs (h : Nested l copies) (logs : List Log) : Nested { l with logs } copies := by
  cases h with
  | outside hs hj => exact .outside hs hj
  | inside hw hd ho => exact .inside ⟨hw.scopes, hw.journal⟩ hd ho

theorem grows (h : Nested l copies) (hg : l.Grows l') : Nested l' copies := by
  induction hg with
  | refl => exact h
  | write _ c ih => exact ih.write c
  | addLog _ _ ih => exact ih.with_logs _

theorem openScope (h : Nested l copies) :
    Nested l.openScope (⟨l.books, l.logs.length⟩ :: copies) :=
  .inside (.openScope l) rfl h

/-- Both ledgers refuse to close a scope for the same reason, or have the same scope to close. -/
theorem innermost_eq {s : SnapshotLedger} (h : Nested l s.copies) (scope : Nat) :
    (∃ cause, l.innermost scope = .error cause ∧ s.innermost scope = .error cause) ∨
      ∃ base copies, s.copies = ⟨base.books, base.logs.length⟩ :: copies ∧ base.Within l ∧
        l.depth = base.depth + 1 ∧ Nested base copies ∧ base.depth = scope ∧
        s.innermost scope = .ok (⟨base.books, base.logs.length⟩, copies) := by
  obtain ⟨books, logs, copies⟩ := s
  cases h with
  | outside hs _ => exact .inl ⟨.noOpenScope, by simp [innermost, hs], rfl⟩
  | @inside base _ copies hw hd ho =>
    have hlen : copies.length = base.depth := ho.depth_eq.symm
    by_cases hscope : base.depth = scope
    · exact .inr ⟨base, copies, rfl, hw, hd, ho, hscope, if_pos (hlen.trans hscope)⟩
    · refine .inl ⟨.scopeMismatch base.depth scope, ?_, ?_⟩
      · rw [innermost, hw.scopes_eq hd]
        exact if_neg hscope
      · rw [SnapshotLedger.innermost]
        dsimp only
        rw [hlen, if_neg hscope]

theorem commit (hw : base.Within l) (hd : l.depth = base.depth + 1) (ho : Nested base copies)
    (hc : l.commit base.depth = .ok l') : Nested l' copies := by
  cases ho with
  | outside hs _ =>
    cases (hw.commit_self hd).symm.trans hc
    exact .outside hs (if_pos (by simp [hs]))
  | inside hw' hd' ho' =>
    have hl' := hw.commit_into hd hw' hc
    refine .inside hl' ?_ ho'
    cases (hw.commit_self hd).symm.trans hc
    exact hd'

end Nested

/-- The journaled ledger stands where the ledger of copies does. -/
structure Matches (l : Ledger) (s : SnapshotLedger) : Prop where
  books : l.books = s.books
  logs : l.logs = s.logs
  nested : Nested l s.copies

namespace Matches

variable {l l' : Ledger} {s : SnapshotLedger}

theorem grows (h : l.Matches s) {books : Books} (hb : l'.books = books) (hl : l'.logs = l.logs)
    (hg : l.Grows l') : l'.Matches { s with books } :=
  ⟨hb, hl.trans h.logs, h.nested.grows hg⟩

/-- An operation gets the same reply from both, and both still match. -/
theorem answer (h : l.Matches s) (call : LedgerCall) :
    (l.answer call).1 = (s.answer call).1 ∧ (l.answer call).2.Matches (s.answer call).2 := by
  obtain ⟨books, logs, copies⟩ := s
  obtain ⟨rfl, rfl, hn⟩ := h
  have here : l.Matches ⟨l.books, l.logs, copies⟩ := ⟨rfl, rfl, hn⟩
  cases call with
  | transfer source target d amount =>
    have hb := books_transfer l source target d amount
    simp only [Ledger.answer, SnapshotLedger.answer, attempt, ← hb]
    cases ht : l.transfer source target d amount with
    | error cause => exact ⟨rfl, here⟩
    | ok l' => exact ⟨rfl, here.grows rfl (logs_transfer ht) (.transfer ht)⟩
  | setNonce a n =>
    exact ⟨rfl, here.grows (books_setNonce l a n) (logs_setNonce l a n) (Grows.refl.setNonce a n)⟩
  | setCode a code =>
    exact ⟨rfl, here.grows (books_setCode l a code) (logs_setCode l a code)
      (Grows.refl.setCode a code)⟩
  | openScope => exact ⟨hn.depth_eq, rfl, rfl, hn.openScope⟩
  | commit scope =>
    rcases Nested.innermost_eq (s := ⟨l.books, l.logs, copies⟩) hn scope with
      ⟨cause, hl, hs⟩ | ⟨base, outer, rfl, hw, hd, ho, rfl, hs⟩
    · have hc : l.commit scope = .error cause := by rw [commit, hl]; rfl
      simp only [Ledger.answer, SnapshotLedger.answer, attempt, hc, hs]
      exact ⟨rfl, here⟩
    · have hc := hw.commit_self hd
      simp only [Ledger.answer, SnapshotLedger.answer, attempt, hc, hs]
      exact ⟨rfl, rfl, rfl, ho.commit hw hd hc⟩
  | rollback scope =>
    rcases Nested.innermost_eq (s := ⟨l.books, l.logs, copies⟩) hn scope with
      ⟨cause, hl, hs⟩ | ⟨base, outer, rfl, hw, hd, ho, rfl, hs⟩
    · have hr : l.rollback scope = .error cause := by rw [rollback, hl]; rfl
      simp only [Ledger.answer, SnapshotLedger.answer, attempt, hr, hs]
      exact ⟨rfl, here⟩
    · have hr := hw.rollback_self hd
      simp only [Ledger.answer, SnapshotLedger.answer, attempt, hr, hs]
      exact ⟨rfl, rfl, rfl, ho.with_logs _⟩
  | setGrant g => exact ⟨rfl, here.grows rfl rfl (Grows.refl.setGrant g)⟩
  | revokeGrant granter grantee =>
    exact ⟨rfl, here.grows (books_revokeGrant l granter grantee)
      (logs_revokeGrant l granter grantee) (Grows.refl.revokeGrant granter grantee)⟩
  | addLog log => exact ⟨rfl, rfl, rfl, hn.grows (Grows.refl.addLog log)⟩
  | takeLogs => exact ⟨rfl, rfl, rfl, hn.with_logs []⟩
  | balance | supply | nonce | accountExists | code | grant => exact ⟨rfl, here⟩

/-- A step gets the same reply from both, and both still match. -/
theorem perform (h : l.Matches s) (step : LedgerStep) :
    (l.perform step).1 = (s.perform step).1 ∧ (l.perform step).2.Matches (s.perform step).2 := by
  cases step with
  | mint a d amount =>
    refine ⟨rfl, h.grows ?_ ?_ (Grows.refl.mint a d amount)⟩
    · rw [← h.books]
      exact books_mint l a d amount
    · exact logs_openAccount l a
  | openAccount a =>
    refine ⟨rfl, h.grows ?_ (logs_openAccount l a) (Grows.refl.openAccount a)⟩
    rw [← h.books]
    exact books_openAccount l a
  | call c => exact h.answer c

theorem after (h : l.Matches s) (steps : List LedgerStep) :
    (l.after steps).Matches (s.after steps) := by
  induction steps generalizing l s with
  | nil => exact h
  | cons step rest ih => exact ih (h.perform step).2

theorem empty : Ledger.empty.Matches SnapshotLedger.empty := ⟨rfl, rfl, .outside rfl rfl⟩

end Matches

/-- After every sequence of steps the journaled ledger has the books of the ledger of copies and as
many open scopes, and any next step gets the same reply from both. -/
theorem agrees_with_snapshots (steps : List LedgerStep) (next : LedgerStep) :
    (empty.after steps).books = (SnapshotLedger.empty.after steps).books ∧
      (empty.after steps).depth = (SnapshotLedger.empty.after steps).copies.length ∧
      ((empty.after steps).perform next).1 = ((SnapshotLedger.empty.after steps).perform next).1 :=
  have h := Matches.empty.after steps
  ⟨h.books, h.nested.depth_eq, (h.perform next).1⟩

end Ledger

end EvmBank
