import EvmBank.Proofs.Execution.Nesting
import EvmBank.Proofs.Token.Ideal

/-!
# Emitted logs

What a program does to the logs is told without the buffer: it emits logs, itself or by calls of tokens,
and opens and closes scopes (`Program.Shows`); from a given ledger it shows just one list of such events
(`Program.exists_shows`, `Program.Shows.unique`). A frame of logs for each scope that is open says which
of them are left: a scope that is committed hands its logs on to the one around it, and one that is rolled
back takes them along (`Frames.step`). The buffer holds just the frames behind what was buffered before
(`Ledger.Framed`), so that a well-nested program leaves the logs that it emitted and did not undo, in
their order (`WellNested.logs_run`).
-/

namespace EvmBank

open Ledger

/-- What a call of a program does to logs and scopes. -/
inductive LogEvent where
  | emitted (logs : List Log)
  | opened
  | committed
  | undone

/-- The logs that are left of each scope: those of the innermost one, and those of the scopes around
it. -/
structure Frames where
  innermost : List Log
  around : List (List Log)

namespace Frames

def empty : Frames := ⟨[], []⟩

/-- The frames after an event. A scope that is not among them cannot be closed. -/
def step (f : Frames) (event : LogEvent) : Frames :=
  match event, f.around with
  | .emitted logs, _ => { f with innermost := f.innermost ++ logs }
  | .opened, _ => ⟨[], f.innermost :: f.around⟩
  | .committed, outer :: around => ⟨outer ++ f.innermost, around⟩
  | .undone, outer :: around => ⟨outer, around⟩
  | _, [] => f

end Frames

/-- The logs of a sequence of events that were not undone, in the order of their emission. -/
def survivors (events : List LogEvent) : List Log := (events.foldl Frames.step .empty).innermost

/-- The logs that a call of a token emits are those that tell of the request, if it is served. -/
def PrecompileTable.Emits (table : PrecompileTable) (a : Address) (call : PrecompileCall) (l : Ledger)
    (logs : List Log) : Prop :=
  match table.dispatch a call l with
  | (some (.ok _), l') => ∃ t r, table.lookup a = some t ∧ call.input = TokenRequest.calldata r ∧
      logs = r.events t call.caller (l'.view call.time)
  | _ => logs = []

/-- What a call of a program shows of itself. -/
def Host.Shows (h : Host) (l : Ledger) (call : HostCall) (event : LogEvent) : Prop :=
  match call with
  | .ledger (.addLog log) => event = .emitted [log]
  | .ledger .openScope => event = .opened
  | .ledger (.commit scope) => event = if (l.commit scope).isOk then .committed else .emitted []
  | .ledger (.rollback scope) => event = if (l.rollback scope).isOk then .undone else .emitted []
  | .precompile a input caller value gasLimit isStatic =>
    ∃ logs, event = .emitted logs ∧
      h.precompiles.Emits a ⟨input, caller, value, gasLimit, isStatic, h.block.time⟩ l logs
  | _ => event = .emitted []

/-- What a program shows on a ledger, one call after the other. -/
def Program.Shows {α : Type} (h : Host) : Program α → Ledger → List LogEvent → Prop
  | .done _, _, events => events = []
  | .ask call next, l, events =>
    ∃ event rest, events = event :: rest ∧ h.Shows l call event ∧
      (next (h.answer l call).1).Shows h (h.answer l call).2 rest

/-! ## One call at a time -/

namespace PrecompileTable

/-- The buffer grows by the logs that a call emits. -/
theorem emits_iff {table : PrecompileTable} {a : Address} {call : PrecompileCall} {l : Ledger}
    {logs : List Log} :
    table.Emits a call l logs ↔ (table.dispatch a call l).2.logs = l.logs ++ logs := by
  unfold Emits
  rcases dispatch_cases table a call l with ⟨-, h⟩ | ⟨t, ht, ⟨cause, h⟩ | ⟨r, out, l', h, -⟩⟩
  · rw [h]
    exact List.self_eq_append_right.symm
  · rw [h]
    exact List.self_eq_append_right.symm
  · rw [h]
    obtain ⟨r, answer, hr⟩ := Token.dispatch_realizes_ideal ht h
    rw [hr.logs, List.append_cancel_left_eq]
    constructor
    · rintro ⟨t', r', ht', hr', rfl⟩
      cases ht.symm.trans ht'
      rw [(hr.calldata r').mp hr']
    · exact fun hlogs => ⟨t, r, ht, (hr.calldata r).mpr rfl, hlogs.symm⟩

theorem exists_emits (table : PrecompileTable) (a : Address) (call : PrecompileCall) (l : Ledger) :
    ∃ logs, table.Emits a call l logs := by
  unfold Emits
  rcases dispatch_cases table a call l with ⟨-, h⟩ | ⟨t, ht, ⟨cause, h⟩ | ⟨r, out, l', h, hs⟩⟩
  · exact ⟨[], by rw [h]⟩
  · exact ⟨[], by rw [h]⟩
  · rw [h]
    exact ⟨_, t, r, ht, hs.admits.input, rfl⟩

end PrecompileTable

namespace Host

variable {h : Host} {l : Ledger} {call : HostCall} {event : LogEvent}

theorem exists_shows (h : Host) (l : Ledger) (call : HostCall) : ∃ event, h.Shows l call event := by
  cases call with
  | precompile a input caller value gasLimit isStatic =>
    obtain ⟨logs, hlogs⟩ := h.precompiles.exists_emits a
      ⟨input, caller, value, gasLimit, isStatic, h.block.time⟩ l
    exact ⟨.emitted logs, logs, rfl, hlogs⟩
  | block | blockHash => exact ⟨_, rfl⟩
  | ledger call => cases call <;> exact ⟨_, rfl⟩

theorem Shows.unique {event' : LogEvent} (hs : h.Shows l call event) (hs' : h.Shows l call event') :
    event = event' := by
  cases call with
  | precompile a input caller value gasLimit isStatic =>
    obtain ⟨logs, rfl, hlogs⟩ := hs
    obtain ⟨logs', rfl, hlogs'⟩ := hs'
    have hsame := (PrecompileTable.emits_iff.mp hlogs).symm.trans (PrecompileTable.emits_iff.mp hlogs')
    rw [List.append_cancel_left hsame]
  | block | blockHash => exact hs.trans hs'.symm
  | ledger call => cases call <;> exact hs.trans hs'.symm

/-- Of the calls of programs that do not empty the buffer there are four kinds. -/
theorem Shows.cases (hs : h.Shows l call event) (hcall : call ≠ .ledger .takeLogs) :
    (∃ logs, event = .emitted logs ∧ (h.answer l call).2.scopes = l.scopes ∧
        (h.answer l call).2.logs = l.logs ++ logs) ∨
      event = .opened ∧ (h.answer l call).2 = l.openScope ∨
      (∃ scope, event = .committed ∧ l.commit scope = .ok (h.answer l call).2) ∨
      ∃ scope, event = .undone ∧ l.rollback scope = .ok (h.answer l call).2 := by
  cases call with
  | precompile a input caller value gasLimit isStatic =>
    obtain ⟨logs, rfl, hemits⟩ := hs
    exact .inl ⟨logs, rfl, PrecompileTable.dispatch_scopes .., PrecompileTable.emits_iff.mp hemits⟩
  | block | blockHash => exact .inl ⟨[], hs, rfl, (List.append_nil _).symm⟩
  | ledger call =>
    -- Most operations write or read, and a refused one does neither.
    have hsilent {l' : Ledger} (hg : l.Grows l') (hlogs : l'.logs = l.logs) :
        l'.scopes = l.scopes ∧ l'.logs = l.logs ++ [] :=
      ⟨hg.scopes_eq, hlogs.trans (List.append_nil _).symm⟩
    have hrefused {l' : Ledger} (he : l' = l) : l'.scopes = l.scopes ∧ l'.logs = l.logs ++ [] :=
      he ▸ hsilent .refl rfl
    cases call with
    | addLog log => exact .inl ⟨[log], hs, rfl, rfl⟩
    | openScope => exact .inr (.inl ⟨hs, rfl⟩)
    | takeLogs => exact absurd rfl hcall
    | commit scope =>
      cases hc : l.commit scope with
      | ok l' =>
        have hl' : (l.answer (.commit scope)).2 = l' := by simp only [Ledger.answer, attempt, hc]
        simp only [Shows, hc] at hs
        exact .inr (.inr (.inl ⟨scope, hs, hl' ▸ hc⟩))
      | error cause =>
        have hsame : (l.answer (.commit scope)).2 = l := by simp only [Ledger.answer, attempt, hc]
        simp only [Shows, hc] at hs
        exact .inl ⟨[], hs, hrefused hsame⟩
    | rollback scope =>
      cases hc : l.rollback scope with
      | ok l' =>
        have hl' : (l.answer (.rollback scope)).2 = l' := by simp only [Ledger.answer, attempt, hc]
        simp only [Shows, hc] at hs
        exact .inr (.inr (.inr ⟨scope, hs, hl' ▸ hc⟩))
      | error cause =>
        have hsame : (l.answer (.rollback scope)).2 = l := by simp only [Ledger.answer, attempt, hc]
        simp only [Shows, hc] at hs
        exact .inl ⟨[], hs, hrefused hsame⟩
    | transfer source target d amount =>
      refine .inl ⟨[], hs, ?_⟩
      simp only [answer, Ledger.answer, attempt]
      split
      · exact hsilent (.transfer ‹_›) (logs_transfer ‹_›)
      · exact hsilent .refl rfl
    | setNonce a n => exact .inl ⟨[], hs, hsilent (Grows.refl.setNonce a n) (logs_setNonce l a n)⟩
    | setCode a code => exact .inl ⟨[], hs, hsilent (Grows.refl.setCode a code) (logs_setCode l a code)⟩
    | setGrant g => exact .inl ⟨[], hs, hsilent (Grows.refl.setGrant g) rfl⟩
    | revokeGrant granter grantee =>
      exact .inl ⟨[], hs,
        hsilent (Grows.refl.revokeGrant granter grantee) (logs_revokeGrant l granter grantee)⟩
    | _ => exact .inl ⟨[], hs, hsilent .refl rfl⟩

end Host

/-! ## Frames in the buffer -/

/-- Above the scopes and logs of `base` stand the scopes of a program and its frames: every scope
remembers how much of the buffer stood below its own frame. -/
inductive Ledger.Framed (base : Ledger) : List Scope → List Log → Frames → Prop
  | outside {logs : List Log} : Framed base base.scopes (base.logs ++ logs) ⟨logs, []⟩
  | inside {scope : Scope} {scopes : List Scope} {below outer logs : List Log}
      {around : List (List Log)} : Framed base scopes below ⟨outer, around⟩ →
      scope.logCount = below.length →
      Framed base (scope :: scopes) (below ++ logs) ⟨logs, outer :: around⟩

namespace Ledger.Framed

variable {base : Ledger} {scope : Scope} {scopes : List Scope} {buffer : List Log} {f : Frames}

theorem emitted (h : base.Framed scopes buffer f) (logs : List Log) :
    base.Framed scopes (buffer ++ logs) (f.step (.emitted logs)) := by
  cases h with
  | outside =>
    rw [List.append_assoc]
    exact .outside
  | inside hbelow hcount =>
    rw [List.append_assoc]
    exact .inside hbelow hcount

theorem opened (h : base.Framed scopes buffer f) (hcount : scope.logCount = buffer.length) :
    base.Framed (scope :: scopes) buffer (f.step .opened) := by
  have hinner : base.Framed (scope :: scopes) (buffer ++ []) ⟨[], f.innermost :: f.around⟩ :=
    .inside h hcount
  rwa [List.append_nil] at hinner

theorem length_eq (h : base.Framed scopes buffer f) : scopes.length = base.depth + f.around.length := by
  induction h with
  | outside => rfl
  | inside _ _ ih => exact congrArg Nat.succ ih

/-- While there are more scopes than below the program, the innermost one has a frame. -/
theorem exists_inside (h : base.Framed (scope :: scopes) buffer f) (hd : base.depth ≤ scopes.length) :
    ∃ below logs outer around, buffer = below ++ logs ∧ f = ⟨logs, outer :: around⟩ ∧
      base.Framed scopes below ⟨outer, around⟩ ∧ scope.logCount = below.length := by
  have hlength := h.length_eq
  generalize hs : scope :: scopes = all at h hlength
  cases h with
  -- Without a frame of its own, the scope would be one of those below the program.
  | outside =>
    rw [← hs, List.length_cons] at hlength
    exact absurd hd (Nat.not_le_of_lt (Nat.lt_of_succ_le (Nat.le_of_eq hlength)))
  | inside hbelow hcount =>
    cases hs
    exact ⟨_, _, _, _, rfl, rfl, hbelow, hcount⟩

theorem committed (h : base.Framed (scope :: scopes) buffer f) (hd : base.depth ≤ scopes.length) :
    base.Framed scopes buffer (f.step .committed) := by
  obtain ⟨below, logs, outer, around, rfl, rfl, hbelow, -⟩ := h.exists_inside hd
  exact hbelow.emitted logs

theorem undone (h : base.Framed (scope :: scopes) buffer f) (hd : base.depth ≤ scopes.length) :
    base.Framed scopes (buffer.take scope.logCount) (f.step .undone) := by
  obtain ⟨below, logs, outer, around, rfl, rfl, hbelow, hcount⟩ := h.exists_inside hd
  rw [hcount, List.take_left]
  exact hbelow

/-- Outside all scopes of the program, its frame is what stands behind the logs of before. -/
theorem logs_eq (h : base.Framed scopes buffer f) (hd : scopes.length = base.depth) :
    buffer = base.logs ++ f.innermost := by
  have hlength := h.length_eq
  cases h with
  | outside => rfl
  | inside =>
    dsimp only [List.length_cons] at hlength hd
    omega

end Ledger.Framed

namespace Program

variable {α : Type} {h : Host} {base l : Ledger}

theorem WellNested.framed {p : Program α} {f : Frames} {events : List LogEvent}
    (hp : p.WellNested h base.depth l) (hs : p.Shows h l events)
    (hf : base.Framed l.scopes l.logs f) :
    base.Framed (h.run p l).2.scopes (h.run p l).2.logs (events.foldl Frames.step f) ∧
      (h.run p l).2.depth = base.depth := by
  induction p generalizing l f events with
  | done a =>
    cases hs
    exact ⟨hf, hp⟩
  | ask call next ih =>
    obtain ⟨hcall, hle, hnext⟩ := hp
    obtain ⟨event, rest, rfl, hshows, hrest⟩ := hs
    rw [List.foldl_cons]
    refine ih _ hnext hrest ?_
    rcases hshows.cases hcall with ⟨logs, rfl, hscopes, hlogs⟩ | ⟨rfl, hopened⟩ | ⟨scope, rfl, hc⟩ |
      ⟨scope, rfl, hr⟩
    · rw [hscopes, hlogs]
      exact hf.emitted logs
    · rw [hopened]
      exact hf.opened rfl
    · obtain ⟨s, outer, hscopes, -, hl'⟩ := commit_eq_ok.mp hc
      rw [hl'] at hle ⊢
      rw [hscopes] at hf
      exact hf.committed hle
    · obtain ⟨s, outer, hscopes, -, hl'⟩ := rollback_eq_ok.mp hr
      rw [hl'] at hle ⊢
      rw [hscopes] at hf
      exact hf.undone hle

/-- A well-nested program leaves the logs that it emitted and did not undo, in their order, behind those
that were buffered before. -/
theorem WellNested.logs_run {p : Program α} {events : List LogEvent}
    (hp : p.WellNested h l.depth l) (hs : p.Shows h l events) :
    (h.run p l).2.logs = l.logs ++ survivors events := by
  have hstart : l.Framed l.scopes (l.logs ++ []) .empty := .outside
  rw [List.append_nil] at hstart
  obtain ⟨hframed, hdepth⟩ := hp.framed hs hstart
  exact hframed.logs_eq hdepth

theorem exists_shows (h : Host) (p : Program α) (l : Ledger) : ∃ events, p.Shows h l events := by
  induction p generalizing l with
  | done a => exact ⟨[], rfl⟩
  | ask call next ih =>
    obtain ⟨event, hevent⟩ := h.exists_shows l call
    obtain ⟨rest, hrest⟩ := ih (h.answer l call).1 (h.answer l call).2
    exact ⟨event :: rest, event, rest, rfl, hevent, hrest⟩

theorem Shows.unique {p : Program α} {events events' : List LogEvent} (hs : p.Shows h l events)
    (hs' : p.Shows h l events') : events = events' := by
  induction p generalizing l events events' with
  | done a => exact hs.trans hs'.symm
  | ask call next ih =>
    obtain ⟨event, rest, rfl, hevent, hrest⟩ := hs
    obtain ⟨event', rest', rfl, hevent', hrest'⟩ := hs'
    rw [hevent.unique hevent', ih _ hrest hrest']

end Program

end EvmBank
