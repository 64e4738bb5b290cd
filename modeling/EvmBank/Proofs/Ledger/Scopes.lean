import EvmBank.Ledger.Call

/-!
# Scopes and the journal

Every operation of the ledger grows it by writes and logs (`Grows`), empties the buffer of logs,
opens a scope or closes one (`answer_cases`). `Within base l` says that `l` was reached from `base`
by such operations inside a scope that was opened on `base` and is still open. Every operation that
leaves that scope open keeps it (`Within.answer`), and it is what makes the end of the scope right:
rolling it back gives `base` again (`Within.rollback_self`), and committing it hands the journal on
to the scope around it (`Within.commit_into`). Nothing is asked of `base`, which may stand inside
other scopes. `KeepsLogs` is the same for the buffered logs; it is lost when the buffer is emptied.
`Inside` is both, where no scope is open further inside.
-/

namespace EvmBank.Ledger

variable {base l l' : Ledger}

/-! ## Growth -/

/-- `l'` is `l` after some writes and logs, with no scope opened or closed. -/
inductive Grows (l : Ledger) : Ledger → Prop
  | refl : Grows l l
  | write {l' : Ledger} : Grows l l' → (c : Cell) → Grows l (l'.write c)
  | addLog {l' : Ledger} : Grows l l' → (log : Log) → Grows l (l'.addLog log)

namespace Grows

theorem scopes_eq (h : l.Grows l') : l'.scopes = l.scopes := by
  induction h with
  | refl => rfl
  | write _ _ ih | addLog _ _ ih => exact ih

theorem depth_eq (h : l.Grows l') : l'.depth = l.depth := congrArg List.length h.scopes_eq

theorem openAccount (h : l.Grows l') (a : Address) : l.Grows (l'.openAccount a) := by
  unfold Ledger.openAccount
  split
  · exact h
  · exact h.write _

theorem mint (h : l.Grows l') (a : Address) (d : Denom) (amount : Amount) :
    l.Grows (l'.mint a d amount) :=
  ((h.openAccount a).write _).write _

theorem setNonce (h : l.Grows l') (a : Address) (n : Nonce) : l.Grows (l'.setNonce a n) :=
  (h.openAccount a).write _

theorem setCode (h : l.Grows l') (a : Address) (code : Bytes) : l.Grows (l'.setCode a code) :=
  (h.openAccount a).write _

theorem setGrant (h : l.Grows l') (g : Grant) : l.Grows (l'.setGrant g) := h.write _

theorem revokeGrant (h : l.Grows l') (granter grantee : Address) :
    l.Grows (l'.revokeGrant granter grantee) := by
  unfold Ledger.revokeGrant
  split
  · exact h.write _
  · exact h

theorem transfer {source target : Address} {d : Denom} {amount : Amount}
    (h : l.transfer source target d amount = .ok l') : l.Grows l' := by
  simp only [Ledger.transfer] at h
  split at h
  · cases h
  · split at h
    · cases h
      exact .refl
    · split at h
      · cases h
      · cases h
        exact ((Grows.refl.openAccount target).write _).write _

end Grows

/-! ## Closing a scope -/

theorem innermost_eq_ok {scope : Nat} {s : Scope} {outer : List Scope} :
    l.innermost scope = .ok (s, outer) ↔ l.scopes = s :: outer ∧ outer.length = scope := by
  unfold innermost
  cases l.scopes with
  | nil => simp
  | cons t rest =>
    simp only [List.cons.injEq]
    split
    · rename_i hlen
      constructor
      · rintro ⟨⟩
        exact ⟨⟨rfl, rfl⟩, hlen⟩
      · rintro ⟨⟨rfl, rfl⟩, -⟩
        rfl
    · rename_i hlen
      constructor
      · rintro ⟨⟩
      · rintro ⟨⟨-, rfl⟩, h⟩
        exact absurd h hlen

theorem commit_eq_ok {scope : Nat} :
    l.commit scope = .ok l' ↔ ∃ s outer, l.scopes = s :: outer ∧ outer.length = scope ∧
      l' = { l with journal := if outer.isEmpty then [] else l.journal, scopes := outer } := by
  constructor
  · intro h
    unfold commit at h
    cases hi : l.innermost scope with
    | error cause => rw [hi] at h; cases h
    | ok top =>
      rw [hi] at h
      cases h
      obtain ⟨hs, hlen⟩ := innermost_eq_ok.mp hi
      exact ⟨top.1, top.2, hs, hlen, rfl⟩
  · rintro ⟨s, outer, hs, hlen, rfl⟩
    simp only [commit, innermost_eq_ok.mpr ⟨hs, hlen⟩]
    rfl

theorem books_of_commit {scope : Nat} (h : l.commit scope = .ok l') : l'.books = l.books := by
  obtain ⟨_, _, -, -, rfl⟩ := commit_eq_ok.mp h
  rfl

theorem rollback_eq_ok {scope : Nat} :
    l.rollback scope = .ok l' ↔ ∃ s outer, l.scopes = s :: outer ∧ outer.length = scope ∧
      l' = {
        books := (l.journal.take (l.journal.length - s.journalLength)).foldl Books.put l.books
        logs := l.logs.take s.logCount
        journal := l.journal.drop (l.journal.length - s.journalLength)
        scopes := outer } := by
  constructor
  · intro h
    unfold rollback at h
    cases hi : l.innermost scope with
    | error cause => rw [hi] at h; cases h
    | ok top =>
      rw [hi] at h
      cases h
      obtain ⟨hs, hlen⟩ := innermost_eq_ok.mp hi
      exact ⟨top.1, top.2, hs, hlen, rfl⟩
  · rintro ⟨s, outer, hs, hlen, rfl⟩
    simp only [rollback, innermost_eq_ok.mpr ⟨hs, hlen⟩]
    rfl

/-- The scope that is closed either way is the innermost one. -/
theorem depth_of_close {scope : Nat} (keep : Bool)
    (h : (if keep then l.commit scope else l.rollback scope) = .ok l') :
    l'.depth = scope ∧ l.depth = scope + 1 := by
  obtain ⟨s, outer, hs, hlength, hl'⟩ : ∃ s outer, l.scopes = s :: outer ∧ outer.length = scope ∧
      l'.scopes = outer := by
    split at h
    · obtain ⟨s, outer, hs, hlength, rfl⟩ := commit_eq_ok.mp h
      exact ⟨s, outer, hs, hlength, rfl⟩
    · obtain ⟨s, outer, hs, hlength, rfl⟩ := rollback_eq_ok.mp h
      exact ⟨s, outer, hs, hlength, rfl⟩
  rw [depth, depth, hl', hs, List.length_cons, hlength]
  exact ⟨rfl, rfl⟩

/-- The innermost scope can be closed either way. -/
theorem exists_close {scope : Nat} (hd : l.depth = scope + 1) (keep : Bool) :
    ∃ l', (if keep then l.commit scope else l.rollback scope) = .ok l' := by
  obtain ⟨s, outer, hs⟩ := List.exists_cons_of_length_eq_add_one hd
  have hlength : outer.length = scope := by
    rw [depth, hs] at hd
    exact Nat.succ.inj hd
  cases keep with
  | true => exact ⟨_, commit_eq_ok.mpr ⟨s, outer, hs, hlength, rfl⟩⟩
  | false => exact ⟨_, rollback_eq_ok.mpr ⟨s, outer, hs, hlength, rfl⟩⟩

/-- Closing the innermost scope leaves those around it. -/
theorem depth_commit {scope : Nat} (hd : l.depth = scope + 1) :
    (l.answer (.commit scope)).2.depth = scope := by
  obtain ⟨l', hclosed⟩ := exists_close hd true
  have hcommit : l.commit scope = .ok l' := hclosed
  simp only [answer, attempt, hcommit]
  exact (depth_of_close true hclosed).1

theorem depth_rollback {scope : Nat} (hd : l.depth = scope + 1) :
    (l.answer (.rollback scope)).2.depth = scope := by
  obtain ⟨l', hclosed⟩ := exists_close hd false
  have hrollback : l.rollback scope = .ok l' := hclosed
  simp only [answer, attempt, hrollback]
  exact (depth_of_close false hclosed).1

/-- Of every operation there is one kind of change that it makes. -/
theorem answer_cases (l : Ledger) (call : LedgerCall) :
    l.Grows (l.answer call).2 ∨ call = .takeLogs ∨ call = .openScope ∨
      (∃ scope, call = .commit scope ∧ l.commit scope = .ok (l.answer call).2) ∨
      ∃ scope, call = .rollback scope ∧ l.rollback scope = .ok (l.answer call).2 := by
  cases call with
  | transfer source target d amount =>
    simp only [answer, attempt]
    split
    · exact .inl (.transfer ‹_›)
    · exact .inl .refl
  | commit scope =>
    simp only [answer, attempt]
    split
    · exact .inr (.inr (.inr (.inl ⟨scope, rfl, ‹_›⟩)))
    · exact .inl .refl
  | rollback scope =>
    simp only [answer, attempt]
    split
    · exact .inr (.inr (.inr (.inr ⟨scope, rfl, ‹_›⟩)))
    · exact .inl .refl
  | setNonce a n => exact .inl (Grows.refl.setNonce a n)
  | setCode a code => exact .inl (Grows.refl.setCode a code)
  | setGrant g => exact .inl (Grows.refl.setGrant g)
  | revokeGrant granter grantee => exact .inl (Grows.refl.revokeGrant granter grantee)
  | addLog log => exact .inl (Grows.refl.addLog log)
  | takeLogs => exact .inr (.inl rfl)
  | openScope => exact .inr (.inr (.inl rfl))
  | _ => exact .inl .refl

/-! ## The open scope -/

/-- What a scope that is opened on `l` remembers. -/
def mark (l : Ledger) : Scope := ⟨l.journal.length, l.logs.length⟩

/-- `l` was reached from `base` inside a scope that was opened on `base` and is still open. The
scopes inside it begin no earlier in the journal, and undoing what the journal has got since then
gives the books of `base`. -/
structure Within (base l : Ledger) : Prop where
  scopes : ∃ inner, l.scopes = inner ++ base.mark :: base.scopes ∧
    ∀ s ∈ inner, base.journal.length ≤ s.journalLength
  journal : ∃ recent, l.journal = recent ++ base.journal ∧
    recent.foldl Books.put l.books = base.books

/-- Besides, all logs that were buffered before are still there, and no scope inside cuts them. -/
structure KeepsLogs (base l : Ledger) : Prop where
  scopes : ∃ inner, l.scopes = inner ++ base.mark :: base.scopes ∧
    ∀ s ∈ inner, base.logs.length ≤ s.logCount
  logs : base.logs <+: l.logs

/-- Of a stack above `base`, the innermost scope that is closed while one remains is an inner one. -/
private theorem inner_of_closed {inner outer : List Scope} {s : Scope}
    (h : s :: outer = inner ++ base.mark :: base.scopes) (hd : base.depth < outer.length) :
    ∃ rest, inner = s :: rest ∧ outer = rest ++ base.mark :: base.scopes := by
  cases inner with
  | nil =>
    cases h
    exact absurd hd (Nat.lt_irrefl _)
  | cons t rest =>
    cases h
    exact ⟨rest, rfl, rfl⟩

/-- Right above `base` stands its own scope. -/
private theorem inner_eq_nil {inner : List Scope} (h : l.scopes = inner ++ base.mark :: base.scopes)
    (hd : l.depth = base.depth + 1) : inner = [] := by
  have := congrArg List.length h
  simp only [depth] at hd
  simp only [List.length_append, List.length_cons] at this
  exact List.eq_nil_of_length_eq_zero (by omega)

namespace Within

theorem openScope (l : Ledger) : l.Within l.openScope :=
  ⟨⟨[], rfl, nofun⟩, ⟨[], rfl, rfl⟩⟩

theorem scopes_eq (h : base.Within l) (hd : l.depth = base.depth + 1) :
    l.scopes = base.mark :: base.scopes := by
  obtain ⟨inner, hs, -⟩ := h.scopes
  rw [hs, inner_eq_nil hs hd]
  rfl

theorem depth_lt (h : base.Within l) : base.depth < l.depth := by
  obtain ⟨inner, hs, -⟩ := h.scopes
  rw [depth, depth, hs, List.length_append, List.length_cons]
  omega

theorem write (h : base.Within l) (c : Cell) : base.Within (l.write c) := by
  obtain ⟨inner, hs, hinner⟩ := h.scopes
  obtain ⟨recent, hj, hb⟩ := h.journal
  refine ⟨⟨inner, hs, hinner⟩, ⟨l.books.current c :: recent, ?_, ?_⟩⟩
  · have : l.scopes.isEmpty = false := by simp [hs]
    simp [Ledger.write, this, hj]
  · show recent.foldl Books.put ((l.books.put c).put (l.books.current c)) = _
    rw [Books.put_current, hb]

theorem grows (h : base.Within l) (hg : l.Grows l') : base.Within l' := by
  induction hg with
  | refl => exact h
  | write _ c ih => exact ih.write c
  | addLog _ _ ih => exact ⟨ih.scopes, ih.journal⟩

theorem dropLogs (h : base.Within l) : base.Within l.dropLogs := ⟨h.scopes, h.journal⟩

theorem openInner (h : base.Within l) : base.Within l.openScope := by
  obtain ⟨inner, hs, hinner⟩ := h.scopes
  obtain ⟨recent, hj, hb⟩ := h.journal
  refine ⟨⟨l.mark :: inner, congrArg (l.mark :: ·) hs, ?_⟩, ⟨recent, hj, hb⟩⟩
  intro s hmem
  rcases List.mem_cons.mp hmem with rfl | hmem
  · simp [mark, hj]
  · exact hinner s hmem

theorem commitInner {scope : Nat} (h : base.Within l) (hc : l.commit scope = .ok l')
    (hd : base.depth < l'.depth) : base.Within l' := by
  obtain ⟨s, outer, hs, -, rfl⟩ := commit_eq_ok.mp hc
  obtain ⟨inner, hs', hinner⟩ := h.scopes
  obtain ⟨rest, rfl, rfl⟩ := inner_of_closed (hs.symm.trans hs') hd
  refine ⟨⟨rest, rfl, fun t ht => hinner t (List.mem_cons_of_mem _ ht)⟩, ?_⟩
  have : (rest ++ base.mark :: base.scopes).isEmpty = false := by simp
  simpa [this] using h.journal

theorem rollbackInner {scope : Nat} (h : base.Within l) (hr : l.rollback scope = .ok l')
    (hd : base.depth < l'.depth) : base.Within l' := by
  obtain ⟨s, outer, hs, -, rfl⟩ := rollback_eq_ok.mp hr
  obtain ⟨inner, hs', hinner⟩ := h.scopes
  obtain ⟨rest, rfl, rfl⟩ := inner_of_closed (hs.symm.trans hs') hd
  obtain ⟨recent, hj, hb⟩ := h.journal
  refine ⟨⟨rest, rfl, fun t ht => hinner t (List.mem_cons_of_mem _ ht)⟩, ?_⟩
  -- The inner scope was opened after `base`, so that all that is undone is recent.
  have hle : l.journal.length - s.journalLength ≤ recent.length := by
    have := hinner s List.mem_cons_self
    rw [hj, List.length_append]
    omega
  generalize l.journal.length - s.journalLength = written at hle
  refine ⟨recent.drop written, ?_, ?_⟩
  · show l.journal.drop written = _
    rw [hj, List.drop_append_of_le_length hle]
  · show (recent.drop written).foldl Books.put ((l.journal.take written).foldl Books.put l.books) = _
    rw [hj, List.take_append_of_le_length hle, ← List.foldl_append, List.take_append_drop, hb]

/-- An operation that leaves the scope open stays inside it. -/
theorem answer (h : base.Within l) (call : LedgerCall) (hd : base.depth < (l.answer call).2.depth) :
    base.Within (l.answer call).2 := by
  rcases answer_cases l call with hg | rfl | rfl | ⟨_, -, hc⟩ | ⟨_, -, hr⟩
  · exact h.grows hg
  · exact h.dropLogs
  · exact h.openInner
  · exact h.commitInner hc hd
  · exact h.rollbackInner hr hd

/-- Rolling the scope back gives `base` again, but for the logs. -/
theorem rollback_self (h : base.Within l) (hd : l.depth = base.depth + 1) :
    l.rollback base.depth = .ok { base with logs := l.logs.take base.logs.length } := by
  obtain ⟨recent, hj, hb⟩ := h.journal
  refine rollback_eq_ok.mpr ⟨base.mark, base.scopes, h.scopes_eq hd, rfl, ?_⟩
  have : l.journal.length - base.mark.journalLength = recent.length := by
    simp [mark, hj]
  rw [this, hj, List.take_left, List.drop_left, hb]
  rfl

/-- Committing the scope keeps the books. -/
theorem commit_self (h : base.Within l) (hd : l.depth = base.depth + 1) :
    l.commit base.depth = .ok { l with
      journal := if base.scopes.isEmpty then [] else l.journal
      scopes := base.scopes } :=
  commit_eq_ok.mpr ⟨base.mark, base.scopes, h.scopes_eq hd, rfl, rfl⟩

/-- What was written in a scope that is committed belongs to the scope around it. -/
theorem commit_into {outer : Ledger} (h : base.Within l) (hd : l.depth = base.depth + 1)
    (ho : outer.Within base) (hc : l.commit base.depth = .ok l') : outer.Within l' := by
  cases (h.commit_self hd).symm.trans hc
  obtain ⟨inner, hs, hinner⟩ := ho.scopes
  obtain ⟨recent, hj, hb⟩ := h.journal
  obtain ⟨older, hj', hb'⟩ := ho.journal
  refine ⟨⟨inner, hs, hinner⟩, ⟨recent ++ older, ?_, ?_⟩⟩
  · have : base.scopes.isEmpty = false := by simp [hs]
    simp [this, hj, hj']
  · rw [List.foldl_append, hb, hb']

end Within

namespace KeepsLogs

theorem openScope (l : Ledger) : l.KeepsLogs l.openScope :=
  ⟨⟨[], rfl, nofun⟩, List.prefix_rfl⟩

/-- Where no log was buffered before, none can be lost. -/
theorem of_nil (h : base.Within l) (hlogs : base.logs = []) : base.KeepsLogs l := by
  obtain ⟨inner, hs, -⟩ := h.scopes
  refine ⟨⟨inner, hs, fun s _ => ?_⟩, ?_⟩
  · rw [hlogs]
    exact Nat.zero_le _
  · rw [hlogs]
    exact List.nil_prefix

theorem grows (h : base.KeepsLogs l) (hg : l.Grows l') : base.KeepsLogs l' := by
  induction hg with
  | refl => exact h
  | write _ _ ih => exact ⟨ih.scopes, ih.logs⟩
  | addLog _ log ih => exact ⟨ih.scopes, ih.logs.trans (List.prefix_append _ _)⟩

theorem openInner (h : base.KeepsLogs l) : base.KeepsLogs l.openScope := by
  obtain ⟨inner, hs, hinner⟩ := h.scopes
  refine ⟨⟨l.mark :: inner, congrArg (l.mark :: ·) hs, ?_⟩, h.logs⟩
  intro s hmem
  rcases List.mem_cons.mp hmem with rfl | hmem
  · exact h.logs.length_le
  · exact hinner s hmem

theorem commitInner {scope : Nat} (h : base.KeepsLogs l) (hc : l.commit scope = .ok l')
    (hd : base.depth < l'.depth) : base.KeepsLogs l' := by
  obtain ⟨s, outer, hs, -, rfl⟩ := commit_eq_ok.mp hc
  obtain ⟨inner, hs', hinner⟩ := h.scopes
  obtain ⟨rest, rfl, rfl⟩ := inner_of_closed (hs.symm.trans hs') hd
  exact ⟨⟨rest, rfl, fun t ht => hinner t (List.mem_cons_of_mem _ ht)⟩, h.logs⟩

theorem rollbackInner {scope : Nat} (h : base.KeepsLogs l) (hr : l.rollback scope = .ok l')
    (hd : base.depth < l'.depth) : base.KeepsLogs l' := by
  obtain ⟨s, outer, hs, -, rfl⟩ := rollback_eq_ok.mp hr
  obtain ⟨inner, hs', hinner⟩ := h.scopes
  obtain ⟨rest, rfl, rfl⟩ := inner_of_closed (hs.symm.trans hs') hd
  refine ⟨⟨rest, rfl, fun t ht => hinner t (List.mem_cons_of_mem _ ht)⟩, ?_⟩
  exact List.prefix_take_iff.mpr ⟨h.logs, hinner s List.mem_cons_self⟩

theorem answer (h : base.KeepsLogs l) (call : LedgerCall) (hcall : call ≠ .takeLogs)
    (hd : base.depth < (l.answer call).2.depth) : base.KeepsLogs (l.answer call).2 := by
  rcases answer_cases l call with hg | rfl | rfl | ⟨_, -, hc⟩ | ⟨_, -, hr⟩
  · exact h.grows hg
  · exact absurd rfl hcall
  · exact h.openInner
  · exact h.commitInner hc hd
  · exact h.rollbackInner hr hd

/-- What was logged in a scope that is committed is behind what was logged around it. -/
theorem commit_into {outer : Ledger} (h : base.KeepsLogs l) (hw : base.Within l)
    (hd : l.depth = base.depth + 1) (ho : outer.KeepsLogs base)
    (hc : l.commit base.depth = .ok l') : outer.KeepsLogs l' := by
  cases (hw.commit_self hd).symm.trans hc
  exact ⟨ho.scopes, ho.logs.trans h.logs⟩

end KeepsLogs

/-! ## Right inside the scope -/

/-- The scope that was opened on `base` is the innermost one, and no log from before is lost. -/
structure Inside (base l : Ledger) : Prop where
  within : base.Within l
  keepsLogs : base.KeepsLogs l
  depth : l.depth = base.depth + 1

namespace Inside

theorem openScope (l : Ledger) : l.Inside l.openScope := ⟨.openScope l, .openScope l, rfl⟩

theorem grows (h : base.Inside l) (hg : l.Grows l') : base.Inside l' :=
  ⟨h.within.grows hg, h.keepsLogs.grows hg, hg.depth_eq.trans h.depth⟩

/-- Rolling the scope back gives `base` again. -/
theorem rollback_eq (h : base.Inside l) : l.rollback base.depth = .ok base := by
  rw [h.within.rollback_self h.depth, ← List.prefix_iff_eq_take.mp h.keepsLogs.logs]

/-- The scope can be committed, and is handed on to the one around it. -/
theorem commit_into {outer : Ledger} (h : base.Inside l) (ho : outer.Inside base)
    (hc : l.commit base.depth = .ok l') : outer.Inside l' := by
  refine ⟨h.within.commit_into h.depth ho.within hc,
    h.keepsLogs.commit_into h.within h.depth ho.keepsLogs hc, ?_⟩
  cases (h.within.commit_self h.depth).symm.trans hc
  exact ho.depth

end Inside

/-- The scope that was opened on `base` is the innermost one. Of the logs nothing is said. -/
structure Innermost (base l : Ledger) : Prop where
  within : base.Within l
  depth : l.depth = base.depth + 1

namespace Innermost

theorem openScope (l : Ledger) : l.Innermost l.openScope := ⟨.openScope l, rfl⟩

theorem grows (h : base.Innermost l) (hg : l.Grows l') : base.Innermost l' :=
  ⟨h.within.grows hg, hg.depth_eq.trans h.depth⟩

theorem dropLogs (h : base.Innermost l) : base.Innermost l.dropLogs := ⟨h.within.dropLogs, h.depth⟩

/-- It is the innermost one again when a scope inside it is closed. -/
theorem of_close {keep : Bool} (hw : base.Within l)
    (h : (if keep then l.commit (base.depth + 1) else l.rollback (base.depth + 1)) = .ok l') :
    base.Innermost l' := by
  have hd := (depth_of_close keep h).1
  have hlt : base.depth < l'.depth := hd ▸ Nat.lt_succ_self _
  refine ⟨?_, hd⟩
  split at h
  · exact hw.commitInner h hlt
  · exact hw.rollbackInner h hlt

/-- Where at most one scope is open inside it, and that one cannot be closed, there is none. -/
theorem of_refused {keep : Bool} {cause : LedgerError} (hw : base.Within l)
    (hd : l.depth ≤ base.depth + 2)
    (h : (if keep then l.commit (base.depth + 1) else l.rollback (base.depth + 1)) = .error cause) :
    base.Innermost l := by
  have hne : l.depth ≠ base.depth + 2 := by
    intro he
    obtain ⟨l', hclosed⟩ := exists_close he keep
    cases h.symm.trans hclosed
  have hlt := hw.depth_lt
  exact ⟨hw, by omega⟩

/-- Rolling the scope back gives `base` again, but for the logs. -/
theorem rollback_eq (h : base.Innermost l) :
    l.rollback base.depth = .ok { base with logs := l.logs.take base.logs.length } :=
  h.within.rollback_self h.depth

end Innermost

end EvmBank.Ledger
