import EvmBank.Proofs.Ledger.Entries
import EvmBank.Proofs.Ledger.Snapshots
import EvmBank.Proofs.SortedMap.Totals
import Mathlib.Data.List.Induction

/-!
# Conservation of coins

Moving coins changes nothing about how many there are (`held_of_transfer`), and where they can all be
counted together, coins that are there can be moved (`exists_transfer`). Books are conserved if the
accounts hold together what was issued. Moving coins keeps them so, and never overflows; issuing them
does, where the supply does not stop at the greatest amount. For a ledger the copies of its open
scopes have to be conserved as well (`Ledger.Sound`), since a rollback takes them back. What a scope
was opened on stays in its copy while the scope is open (`Keeps`); so a rollback changes a supply
only if coins were issued inside (`supply_change`).
-/

namespace EvmBank

-- Powers are those of the core library, also beside more general ones.
attribute [local instance (high)] instPowNat

namespace Books

variable {b b' : Books}

/-! ## Coins that are held -/

/-- The coins of one denomination that all accounts hold together. -/
def held (b : Books) (d : Denom) : Nat :=
  b.balances.total fun key n => if key.2 = d then n.toNat else 0

/-- The accounts hold together what was issued. -/
def Conserved (b : Books) : Prop := ∀ d, b.held d = (b.supply d).toNat

theorem toNat_balance (b : Books) (a : Address) (d d' : Denom) :
    ((b.balances.get? (a, d)).map fun n => if d = d' then n.toNat else 0).getD 0 =
      if d = d' then (b.balance a d).toNat else 0 := by
  unfold balance SortedMap.getD
  cases b.balances.get? (a, d) with
  | none => simp
  | some n => rfl

theorem held_put_balance (b : Books) (a : Address) (d d' : Denom) (n : Amount) :
    (b.put (.balance a d (some n))).held d' + (if d = d' then (b.balance a d).toNat else 0) =
      b.held d' + if d = d' then n.toNat else 0 := by
  have h := SortedMap.total_alter (w := fun key m => if key.2 = d' then m.toNat else 0)
    b.balances (a, d) (some n)
  rwa [toNat_balance] at h

theorem balance_le_held (b : Books) (a : Address) (d : Denom) :
    (b.balance a d).toNat ≤ b.held d := by
  have h := held_put_balance b a d d 0
  rw [if_pos rfl, if_pos rfl, Quantity.toNat_zero] at h
  omega

/-- Two accounts hold no more than all do. -/
theorem balances_le_held (b : Books) {a a' : Address} (ha : a' ≠ a) (d : Denom) :
    (b.balance a d).toNat + (b.balance a' d).toNat ≤ b.held d := by
  have hrest := balance_le_held (b.put (.balance a d (some 0))) a' d
  rw [balance_put_balance, if_neg fun he => ha he.1] at hrest
  have h := held_put_balance b a d d 0
  rw [if_pos rfl, if_pos rfl, Quantity.toNat_zero] at h
  omega

theorem held_of_balances (h : b'.balances = b.balances) (d : Denom) : b'.held d = b.held d := by
  rw [held, held, h]

section
variable {source target : Address} {d : Denom} {amount : Amount}

/-- Where all coins together can be counted, coins that are there can be moved to anyone. -/
theorem exists_transfer (hheld : b.held d < 2 ^ (256 : Nat)) (hfunds : amount ≤ b.balance source d)
    (target : Address) : ∃ b', b.transfer source target d amount = .ok b' := by
  have hpays : ¬b.balance source d < amount := Nat.not_lt_of_le hfunds
  simp only [transfer]
  rw [if_neg hpays]
  split
  · exact ⟨b, rfl⟩
  · rename_i hne
    cases hcredit : (b.balance target d).add? amount with
    | some credited => exact ⟨_, rfl⟩
    | none =>
      have hover := Quantity.ofNat?_eq_none.mp hcredit
      have hpaid := Quantity.le_def.mp hfunds
      have htwo := b.balances_le_held (Ne.symm hne) d
      omega

/-- Moving coins changes nothing about how many there are. -/
theorem held_of_transfer (ht : b.transfer source target d amount = .ok b') (d' : Denom) :
    b'.held d' = b.held d' := by
  have hmoves := moves_of_transfer ht
  simp only [transfer] at ht
  split at ht
  · cases ht
  · split at ht
    · cases ht
      rfl
    · rename_i hne
      split at ht
      · cases ht
      · rename_i credited hcredit
        cases ht
        have hcredit := Quantity.add?_eq_some.mp hcredit
        have hfunds := hmoves.funds
        -- The account that receives the coins is another one, and is credited from what it had.
        have hother : ((b.openAccount target).put (.balance source d
            (some ((b.balance source d).satSub amount)))).balance target d = b.balance target d := by
          rw [balance_put_balance, if_neg fun he => hne he.1.symm, balance_openAccount]
        have hdebited := held_put_balance (b.openAccount target) source d d'
          ((b.balance source d).satSub amount)
        have hcredited := held_put_balance ((b.openAccount target).put
          (.balance source d (some ((b.balance source d).satSub amount)))) target d d' credited
        rw [hother, hcredit] at hcredited
        rw [balance_openAccount, Quantity.toNat_satSub] at hdebited
        change _ = b.held d' + _ at hdebited
        by_cases hd : d = d'
        · simp only [hd, if_true] at hdebited hcredited hfunds ⊢
          omega
        · simp only [hd, if_false] at hdebited hcredited ⊢
          omega

theorem Conserved.transfer_ne_overflow (h : b.Conserved) (source target : Address) (d : Denom)
    (amount : Amount) : b.transfer source target d amount ≠ .error .overflow := by
  intro hover
  by_cases hfunds : amount ≤ b.balance source d
  · obtain ⟨b', ht⟩ := exists_transfer (h d ▸ (b.supply d).isLt) hfunds target
    cases ht.symm.trans hover
  · have hlacks : b.balance source d < amount := Nat.lt_of_not_le hfunds
    simp only [Books.transfer] at hover
    rw [if_pos hlacks] at hover
    cases hover

theorem Conserved.transfer (h : b.Conserved) (ht : b.transfer source target d amount = .ok b') :
    b'.Conserved := by
  intro d'
  have hsupply : b'.supply d' = b.supply d' :=
    congrArg (·.getD d' 0) (moves_of_transfer ht).supplies
  rw [held_of_transfer ht, hsupply]
  exact h d'

end

theorem supply_put_supply (b : Books) (d d' : Denom) (n : Amount) :
    (b.put (.supply d (some n))).supply d' = if d' = d then n else b.supply d' := by
  simp only [supply, put, SortedMap.getD, SortedMap.get?_alter]
  split <;> rfl

theorem supply_mint (b : Books) (a : Address) (d d' : Denom) (amount : Amount) :
    (b.mint a d amount).supply d' =
      if d' = d then (b.supply d).satAdd amount else b.supply d' :=
  supply_put_supply _ d d' _

/-- Coins that are issued add to the supply, if it does not stop at the greatest amount. Then the
balance that they are added to does not stop there either. -/
theorem Conserved.mint {d : Denom} {amount : Amount} (h : b.Conserved)
    (hfits : ((b.supply d).add? amount).isSome = true) (a : Address) :
    (b.mint a d amount).Conserved := by
  obtain ⟨total, htotal⟩ := Option.isSome_iff_exists.mp hfits
  have hexact := Quantity.add?_eq_some.mp htotal
  have hlimit := total.isLt
  have hissued : ((b.supply d).satAdd amount).toNat = (b.supply d).toNat + amount.toNat := by
    rw [Quantity.toNat_satAdd]
    omega
  have hheld := balance_le_held b a d
  rw [h d] at hheld
  have hbalance : ((b.balance a d).satAdd amount).toNat = (b.balance a d).toNat + amount.toNat := by
    rw [Quantity.toNat_satAdd]
    omega
  intro d'
  have hcredited := held_put_balance (b.openAccount a) a d d' ((b.balance a d).satAdd amount)
  rw [balance_openAccount, hbalance] at hcredited
  change (b.mint a d amount).held d' + _ = b.held d' + _ at hcredited
  rw [supply_mint]
  rw [h d'] at hcredited
  by_cases hd : d = d'
  · cases hd
    simp only [if_true] at hcredited ⊢
    omega
  · simp only [hd, if_false] at hcredited
    rw [if_neg (Ne.symm hd)]
    omega

/-! ## What a step writes -/

/-- What a step that opens and closes no scope does to the coins. -/
inductive Turn (b : Books) : LedgerStep → Books → Prop
  | mint (a : Address) (d : Denom) (amount : Amount) : Turn b (.mint a d amount) (b.mint a d amount)
  | moved {step : LedgerStep} {source target : Address} {d : Denom} {amount : Amount} {b' : Books} :
      b.transfer source target d amount = .ok b' → Turn b step b'
  | other {step : LedgerStep} {b' : Books} : b'.balances = b.balances →
      b'.supplies = b.supplies → Turn b step b'

theorem Turn.refl (b : Books) (step : LedgerStep) : b.Turn step b := .other rfl rfl

end Books

/-- Issues no more coins than amounts can count. -/
def LedgerStep.Fits (b : Books) : LedgerStep → Prop
  | .mint _ d amount => ((b.supply d).add? amount).isSome = true
  | _ => True

namespace Books.Turn

variable {b b' : Books} {step : LedgerStep}

theorem conserved (ht : b.Turn step b') (hfits : step.Fits b) (h : b.Conserved) :
    b'.Conserved := by
  cases ht with
  | mint a d amount => exact h.mint hfits a
  | moved ht => exact h.transfer ht
  | other hbalances hsupplies =>
    intro d
    rw [held, supply, hbalances, hsupplies]
    exact h d

/-- Coins of a denomination are issued only where a step says so. -/
theorem supply_eq (ht : b.Turn step b') {d : Denom}
    (hstep : ∀ a amount, step ≠ .mint a d amount) : b'.supply d = b.supply d := by
  cases ht with
  | mint a d' amount =>
    rw [supply_mint, if_neg]
    rintro rfl
    exact hstep a amount rfl
  | moved ht => exact congrArg (·.getD d 0) (moves_of_transfer ht).supplies
  | other _ hsupplies => exact congrArg (·.getD d 0) hsupplies

end Books.Turn

namespace SnapshotLedger

variable {s s' : SnapshotLedger} {step : LedgerStep} {fixed : List Copy} {P : Books → Prop}

/-- What a step does to the books and the copies. -/
inductive Goes (s : SnapshotLedger) : LedgerStep → SnapshotLedger → Prop
  | writes {step : LedgerStep} {books : Books} (logs : List Log) : s.books.Turn step books →
      Goes s step ⟨books, logs, s.copies⟩
  | opens : Goes s (.call .openScope) ⟨s.books, s.logs, ⟨s.books, s.logs.length⟩ :: s.copies⟩
  | commits {copy : Copy} {outer : List Copy} : s.copies = copy :: outer →
      Goes s (.call (.commit outer.length)) ⟨s.books, s.logs, outer⟩
  | rollsBack {copy : Copy} {outer : List Copy} (logs : List Log) : s.copies = copy :: outer →
      Goes s (.call (.rollback outer.length)) ⟨copy.books, logs, outer⟩

theorem innermost_eq_ok {scope : Nat} {copy : Copy} {outer : List Copy}
    (h : s.innermost scope = .ok (copy, outer)) : s.copies = copy :: outer ∧ outer.length = scope := by
  unfold innermost at h
  split at h
  · cases h
  · rename_i hcopies
    split at h
    · cases h
      exact ⟨hcopies, ‹_›⟩
    · cases h

theorem goes (s : SnapshotLedger) (step : LedgerStep) : s.Goes step (s.perform step).2 := by
  cases step with
  | mint a d amount => exact .writes s.logs (.mint a d amount)
  | openAccount a => exact .writes s.logs (.other rfl rfl)
  | call call =>
    cases call with
    | transfer source target d amount =>
      simp only [perform, answer]
      split
      · exact .writes s.logs (.moved ‹_›)
      · exact .writes s.logs (.refl s.books _)
    | openScope => exact .opens
    | commit scope =>
      simp only [perform, answer]
      split
      · rename_i hinner
        obtain ⟨hcopies, rfl⟩ := innermost_eq_ok hinner
        exact .commits hcopies
      · exact .writes s.logs (.refl s.books _)
    | rollback scope =>
      simp only [perform, answer]
      split
      · rename_i hinner
        obtain ⟨hcopies, rfl⟩ := innermost_eq_ok hinner
        exact .rollsBack _ hcopies
      · exact .writes s.logs (.refl s.books _)
    | addLog log => exact .writes (s.logs ++ [log]) (.refl s.books _)
    | takeLogs => exact .writes [] (.refl s.books _)
    | setNonce | setCode | setGrant | revokeGrant => exact .writes s.logs (.other rfl rfl)
    | balance | supply | nonce | accountExists | code | grant =>
      exact .writes s.logs (.refl s.books _)

/-! ## What holds while a scope is open -/

/-- The copies of some scopes are still there, and the books and all copies made since are as `P`
says. -/
structure Keeps (P : Books → Prop) (fixed : List Copy) (s : SnapshotLedger) : Prop where
  books : P s.books
  copies : ∃ inner, s.copies = inner ++ fixed ∧ ∀ copy ∈ inner, P copy.books

/-- Of the copies above `fixed`, the one that is closed while these remain is as `P` says. -/
theorem Keeps.closed {copy : Copy} {outer : List Copy} (h : s.Keeps P fixed)
    (hcopies : s.copies = copy :: outer) (hd : fixed.length ≤ outer.length) :
    P copy.books ∧ ∃ inner, outer = inner ++ fixed ∧ ∀ copy ∈ inner, P copy.books := by
  obtain ⟨inner, hinner, hall⟩ := h.copies
  cases inner with
  | nil =>
    have hlength := congrArg List.length (hcopies.symm.trans hinner)
    simp only [List.nil_append, List.length_cons] at hlength
    omega
  | cons first rest =>
    cases hcopies.symm.trans hinner
    exact ⟨hall copy List.mem_cons_self, rest, rfl,
      fun c hc => hall c (List.mem_cons_of_mem _ hc)⟩

theorem Keeps.goes (h : s.Keeps P fixed) (hg : s.Goes step s')
    (hturn : ∀ b, s.books.Turn step b → P b) (hd : fixed.length ≤ s'.copies.length) :
    s'.Keeps P fixed := by
  cases hg with
  | writes logs ht => exact ⟨hturn _ ht, h.copies⟩
  | opens =>
    obtain ⟨inner, hinner, hall⟩ := h.copies
    refine ⟨h.books, ⟨s.books, s.logs.length⟩ :: inner, congrArg _ hinner, ?_⟩
    exact List.forall_mem_cons.mpr ⟨h.books, hall⟩
  | commits hcopies => exact ⟨h.books, (h.closed hcopies hd).2⟩
  | rollsBack logs hcopies => exact ⟨(h.closed hcopies hd).1, (h.closed hcopies hd).2⟩

theorem Keeps.after {steps : List LedgerStep} (h : s.Keeps P fixed)
    (hturn : ∀ step ∈ steps, ∀ b b', P b → b.Turn step b' → P b')
    (hd : ∀ first, first <+: steps → fixed.length ≤ (s.after first).copies.length) :
    (s.after steps).Keeps P fixed := by
  induction steps generalizing s with
  | nil => exact h
  | cons step rest ih =>
    obtain ⟨hstep, hrest⟩ := List.forall_mem_cons.mp hturn
    have hfirst := hd [step] ⟨rest, rfl⟩
    refine ih (h.goes (s.goes step) (fun b => hstep s.books b h.books) hfirst) hrest ?_
    exact fun first hprefix => hd (step :: first) (List.cons_prefix_cons.mpr ⟨rfl, hprefix⟩)

theorem after_append (s : SnapshotLedger) (steps rest : List LedgerStep) :
    s.after (steps ++ rest) = (s.after steps).after rest :=
  List.foldl_append

/-- Scopes are opened one at a time. -/
theorem Goes.opening (hg : s.Goes step s') (hd : s.copies.length < s'.copies.length) :
    step = .call .openScope ∧ s'.copies.length = s.copies.length + 1 := by
  cases hg with
  | writes => exact absurd hd (Nat.lt_irrefl _)
  | opens => exact ⟨rfl, rfl⟩
  | commits hcopies | rollsBack _ hcopies =>
    rw [hcopies, List.length_cons] at hd
    exact absurd hd (Nat.not_lt_of_le (Nat.le_succ _))

/-- Every scope that is open was opened at some step, and has been open since. -/
theorem exists_opening {steps : List LedgerStep} {scope : Nat}
    (hd : scope < (empty.after steps).copies.length) :
    ∃ before inside, steps = before ++ .call .openScope :: inside ∧
      (empty.after before).copies.length = scope ∧
      ∀ first, first <+: inside →
        scope < (empty.after (before ++ .call .openScope :: first)).copies.length := by
  induction steps using List.reverseRecOn with
  | nil => exact absurd hd (Nat.not_lt_zero _)
  | append_singleton steps step ih =>
    by_cases hopen : scope < (empty.after steps).copies.length
    · obtain ⟨before, inside, rfl, hbefore, hinside⟩ := ih hopen
      refine ⟨before, inside ++ [step], by simp, hbefore, fun first hprefix => ?_⟩
      rcases List.prefix_concat_iff.mp hprefix with rfl | hprefix
      · simpa using hd
      · exact hinside first hprefix
    · -- The scope is not open before the last step, which is therefore the one that opens it.
      have hnew := Nat.le_of_not_lt hopen
      rw [after_append] at hd
      change scope < ((empty.after steps).perform step).2.copies.length at hd
      obtain ⟨rfl, hlength⟩ :=
        ((empty.after steps).goes step).opening (Nat.lt_of_le_of_lt hnew hd)
      refine ⟨steps, [], rfl, by omega, fun first hprefix => ?_⟩
      rw [List.prefix_nil.mp hprefix, after_append]
      exact hd

end SnapshotLedger

namespace Ledger

variable {l : Ledger} {step : LedgerStep}

/-! ## Conserved ledgers -/

/-- The accounts hold together what was issued, now and after any rollback. -/
def Sound (l : Ledger) : Prop := ∃ s : SnapshotLedger, l.Matches s ∧ s.Keeps Books.Conserved []

theorem Sound.conserved (h : l.Sound) : l.books.Conserved := by
  obtain ⟨s, hm, hk⟩ := h
  exact hm.books ▸ hk.books

theorem Sound.empty : Sound .empty :=
  ⟨.empty, .empty, fun _ => rfl, [], rfl, List.forall_mem_nil _⟩

theorem Sound.perform (h : l.Sound) (hfits : step.Fits l.books) : (l.perform step).2.Sound := by
  obtain ⟨s, hm, hk⟩ := h
  rw [hm.books] at hfits
  exact ⟨_, (hm.perform step).2,
    hk.goes (s.goes step) (fun b ht => ht.conserved hfits hk.books) (Nat.zero_le _)⟩

theorem Sound.answer (h : l.Sound) (call : LedgerCall) : (l.answer call).2.Sound :=
  h.perform (show (LedgerStep.call call).Fits l.books from trivial)

/-- Where all coins together can be counted, coins that are there can be moved to anyone. -/
theorem exists_transfer {source : Address} {d : Denom} {amount : Amount}
    (hheld : l.books.held d < 2 ^ (256 : Nat)) (hfunds : amount ≤ l.balance source d)
    (target : Address) : ∃ l', l.transfer source target d amount = .ok l' := by
  obtain ⟨b', hbooks⟩ := Books.exists_transfer hheld hfunds target
  have hledger := books_transfer l source target d amount
  rw [hbooks] at hledger
  cases ht : l.transfer source target d amount with
  | ok l' => exact ⟨l', rfl⟩
  | error cause =>
    rw [ht] at hledger
    cases hledger

theorem Sound.transfer_ne_overflow (h : l.Sound) (source target : Address) (d : Denom)
    (amount : Amount) : l.transfer source target d amount ≠ .error .overflow := by
  intro ho
  have hbooks := books_transfer l source target d amount
  rw [ho] at hbooks
  exact h.conserved.transfer_ne_overflow source target d amount hbooks.symm

/-! ## Changes of a supply -/

/-- The scope that was opened as `scope` is still open, and coins were issued inside it. -/
def MintedInside (history : List LedgerStep) (scope : Nat) (d : Denom) : Prop :=
  ∃ before inside, history = before ++ .call .openScope :: inside ∧
    (empty.after before).depth = scope ∧
    (∀ first, first <+: inside →
      scope < (empty.after (before ++ .call .openScope :: first)).depth) ∧
    ∃ a amount, LedgerStep.mint a d amount ∈ inside

theorem depth_after (steps : List LedgerStep) :
    (empty.after steps).depth = (SnapshotLedger.empty.after steps).copies.length :=
  (Matches.empty.after steps).nested.depth_eq

/-- A supply is changed by issuing coins, and by a rollback of a scope inside which coins were
issued. -/
theorem supply_change {history : List LedgerStep} {d : Denom}
    (h : ((empty.after history).perform step).2.supply d ≠ (empty.after history).supply d) :
    (∃ a amount, step = .mint a d amount) ∨
      ∃ scope, step = .call (.rollback scope) ∧ MintedInside history scope d := by
  by_cases hmint : ∃ a amount, step = .mint a d amount
  · exact .inl hmint
  right
  have hm := Matches.empty.after history
  rw [supply, supply, (hm.perform step).2.books, hm.books] at h
  have hg := (SnapshotLedger.empty.after history).goes step
  generalize ((SnapshotLedger.empty.after history).perform step).2 = s' at h hg
  cases hg with
  | writes logs ht => exact absurd (ht.supply_eq fun a n he => hmint ⟨a, n, he⟩) h
  | opens | commits => exact absurd rfl h
  | @rollsBack copy outer logs hcopies =>
    refine ⟨outer.length, rfl, ?_⟩
    have hopen : outer.length < (SnapshotLedger.empty.after history).copies.length :=
      hcopies ▸ Nat.lt_succ_self _
    obtain ⟨before, inside, rfl, hbefore, hinside⟩ := SnapshotLedger.exists_opening hopen
    refine ⟨before, inside, rfl, (depth_after before).trans hbefore,
      fun first hfirst => depth_after _ ▸ hinside first hfirst, ?_⟩
    refine Classical.byContradiction fun hnone => h ?_
    rw [SnapshotLedger.after_append] at hcopies ⊢
    simp only [SnapshotLedger.after_append] at hinside
    generalize SnapshotLedger.empty.after before = opened at *
    -- Without an issue of coins, the books and all copies since have the supply of the first copy.
    have hkeeps : (((opened.perform (.call .openScope)).2).after inside).Keeps
        (fun b => b.supply d = opened.books.supply d)
        (⟨opened.books, opened.logs.length⟩ :: opened.copies) := by
      refine SnapshotLedger.Keeps.after ⟨rfl, [], rfl, List.forall_mem_nil _⟩ ?_ ?_
      · intro step hstep b b' hb ht
        rw [ht.supply_eq fun a amount he => hnone ⟨a, amount, he ▸ hstep⟩, hb]
      · intro first hfirst
        have := hinside first hfirst
        rw [List.length_cons, hbefore]
        exact this
    obtain ⟨inner, hinner, hall⟩ := hkeeps.copies
    have hbooks : (opened.after (.call .openScope :: inside)).books.supply d =
        opened.books.supply d := hkeeps.books
    rw [hbooks]
    cases inner with
    | nil =>
      cases hcopies.symm.trans hinner
      rfl
    | cons first rest =>
      cases hcopies.symm.trans hinner
      exact hall copy List.mem_cons_self

end Ledger

end EvmBank
