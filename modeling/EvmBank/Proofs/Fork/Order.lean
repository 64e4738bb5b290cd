import EvmBank.Fork
import Mathlib.Data.ENat.Basic
import Mathlib.Data.List.Chain

/-!
# The order of forks

A fork begins at its height, or at infinity if it is never active (`ForkSchedule.onset`). Looking for the
first two neighbours in disorder is looking for a descent among the onsets
(`ForkSchedule.firstDisorder_eq_none`), and a fork begins no later than another just if it is active
wherever the other one is (`ForkSchedule.onset_le_onset`). A table is resolved entry by entry, and an
entry that is left out repeats the onset before it, so it neither makes a descent nor hides one
(`ForkEntry.isChain_resolveAll`).
-/

namespace EvmBank

/-! ## Onsets -/

namespace ForkSchedule

/-- Where a fork begins to be active, which is infinity if it never is. -/
def onset : Option Height → ℕ∞
  | none => ⊤
  | some height => height.toNat

theorem isTooSoon_iff {earlier later : Option Height} :
    isTooSoon earlier later = true ↔ onset later < onset earlier := by
  cases earlier <;> cases later <;> simp [isTooSoon, onset, Quantity.lt_def]

theorem isActive_iff {activation : Option Height} {height : Height} :
    isActive activation height = true ↔ onset activation ≤ height.toNat := by
  cases activation <;> simp [isActive, onset, Quantity.le_def]

theorem isActive_mono {activation : Option Height} {height height' : Height} (hle : height ≤ height')
    (h : isActive activation height = true) : isActive activation height' = true :=
  isActive_iff.mpr ((isActive_iff.mp h).trans (Nat.cast_le.mpr hle))

/-- At its own height the later fork is active, and the earlier one not. -/
theorem exists_active_of_onset_lt {earlier later : Option Height}
    (h : onset later < onset earlier) :
    ∃ height, isActive later height = true ∧ isActive earlier height = false := by
  cases later with
  | none => exact absurd h not_top_lt
  | some height =>
    refine ⟨height, isActive_iff.mpr le_rfl, Bool.eq_false_iff.mpr fun hactive => ?_⟩
    exact absurd h (not_lt.mpr (isActive_iff.mp hactive))

theorem onset_le_onset {earlier later : Option Height} :
    onset earlier ≤ onset later ↔
      ∀ height, isActive later height = true → isActive earlier height = true := by
  constructor
  · exact fun hle height hactive => isActive_iff.mpr (hle.trans (isActive_iff.mp hactive))
  · intro hall
    refine not_lt.mp fun hlt => ?_
    obtain ⟨height, hlater, hearlier⟩ := exists_active_of_onset_lt hlt
    cases hearlier.symm.trans (hall height hlater)

/-! ## The first disorder -/

theorem find?_neighbours_eq_none {α : Type} (bad : α → α → Bool) (l : List α) :
    ((l.zip l.tail).find? fun p => bad p.1 p.2) = none ↔ l.IsChain fun a b => bad a b = false := by
  induction l with
  | nil => simp
  | cons a rest ih =>
    cases rest with
    | nil => simp
    | cons b rest =>
      rw [List.isChain_cons_cons, ← ih, List.tail_cons, List.zip_cons_cons, List.tail_cons]
      cases hbad : bad a b <;> simp [hbad]

variable {s : ForkSchedule}

theorem firstDisorder_eq_none :
    s.firstDisorder = none ↔
      Fork.all.IsChain fun a b => onset (s.activation a) ≤ onset (s.activation b) := by
  rw [firstDisorder, find?_neighbours_eq_none fun a b => isTooSoon (s.activation a) (s.activation b)]
  simp only [← Bool.not_eq_true, isTooSoon_iff, not_lt]

theorem onset_lt_of_firstDisorder {earlier later : Fork}
    (h : s.firstDisorder = some (earlier, later)) :
    onset (s.activation later) < onset (s.activation earlier) := by
  unfold firstDisorder at h
  have hbad := List.find?_some h
  exact isTooSoon_iff.mp hbad

end ForkSchedule

/-! ## Rules in force -/

namespace ChainRules

/-- Whether a fork is active under the rules. -/
def flag (r : ChainRules) : Fork → Bool
  | .homestead => r.homestead
  | .istanbul => r.istanbul
  | .berlin => r.berlin
  | .london => r.london
  | .shanghai => r.shanghai

/-- No fork is active without those before it. -/
def Nested (r : ChainRules) : Prop :=
  (r.shanghai = true → r.london = true) ∧ (r.london = true → r.berlin = true) ∧
    (r.berlin = true → r.istanbul = true) ∧ (r.istanbul = true → r.homestead = true)

theorem nested_iff {r : ChainRules} :
    r.Nested ↔ Fork.all.IsChain fun a b => r.flag b = true → r.flag a = true := by
  simp only [Nested, Fork.all, List.isChain_cons_cons, List.isChain_singleton, flag]
  tauto

end ChainRules

namespace ForkSchedule

variable {s : ForkSchedule}

theorem flag_rules (s : ForkSchedule) (chainId : Quantity 64) (height : Height) (f : Fork) :
    (s.rules chainId height).flag f = isActive (s.activation f) height := by
  cases f <;> rfl

theorem firstDisorder_eq_none_iff_nested (chainId : Quantity 64) :
    s.firstDisorder = none ↔ ∀ height, (s.rules chainId height).Nested := by
  simp only [firstDisorder_eq_none, onset_le_onset, ChainRules.nested_iff, flag_rules,
    List.isChain_iff_getElem]
  exact ⟨fun h height i hi => h i hi height, fun h i hi height => h height i hi⟩

end ForkSchedule

/-! ## Tables -/

namespace ForkEntry

open ForkSchedule (onset)

/-- Where a fork begins that an entry says something of. -/
def onset? : ForkEntry → Option ℕ∞
  | .leftOut => none
  | .never => some ⊤
  | .since height => some height.toNat

/-- The heights that entries stand for, one after the other. -/
def resolveAll : (previous : Option Height) → List ForkEntry → List (Option Height)
  | _, [] => []
  | previous, entry :: rest =>
    entry.resolve previous :: resolveAll (entry.resolve previous) rest

theorem onset_resolve (previous : Option Height) (entry : ForkEntry) :
    onset (entry.resolve previous) = entry.onset?.getD (onset previous) := by
  cases entry <;> rfl

/-- Entries that are left out do not count for the order. -/
theorem isChain_resolveAll (previous : Option Height) (entries : List ForkEntry) :
    (onset previous :: (resolveAll previous entries).map onset).IsChain (· ≤ ·) ↔
      (onset previous :: entries.filterMap onset?).IsChain (· ≤ ·) := by
  induction entries generalizing previous with
  | nil => rfl
  | cons entry rest ih =>
    rw [resolveAll, List.map_cons, List.isChain_cons_cons, ih, onset_resolve]
    -- An entry either repeats the onset in front of it or is written behind it.
    cases hsaid : entry.onset? with
    | none => rw [List.filterMap_cons_none hsaid, Option.getD_none, and_iff_right le_rfl]
    | some o => rw [List.filterMap_cons_some hsaid, Option.getD_some, List.isChain_cons_cons]

end ForkEntry

namespace ForkTable

variable {t : ForkTable}

def entry (t : ForkTable) : Fork → ForkEntry
  | .homestead => t.homestead
  | .istanbul => t.istanbul
  | .berlin => t.berlin
  | .london => t.london
  | .shanghai => t.shanghai

/-- What the table says, in the order of the forks and without those that are left out. -/
def written (t : ForkTable) : List ℕ∞ := (Fork.all.map t.entry).filterMap ForkEntry.onset?

theorem activations_resolve (t : ForkTable) :
    Fork.all.map t.resolve.activation = ForkEntry.resolveAll (some 0) (Fork.all.map t.entry) := rfl

theorem firstDisorder_resolve : t.resolve.firstDisorder = none ↔ t.written.Pairwise (· ≤ ·) := by
  have hzero : ForkSchedule.onset (some 0) = 0 := by simp [ForkSchedule.onset]
  have hfront (l : List ℕ∞) : (ForkSchedule.onset (some 0) :: l).IsChain (· ≤ ·) ↔ l.IsChain (· ≤ ·) := by
    rw [List.isChain_cons, hzero]
    exact and_iff_right fun _ _ => bot_le
  calc t.resolve.firstDisorder = none
      ↔ ((Fork.all.map t.resolve.activation).map ForkSchedule.onset).IsChain (· ≤ ·) := by
        rw [ForkSchedule.firstDisorder_eq_none, List.isChain_map, List.isChain_map]
    _ ↔ t.written.IsChain (· ≤ ·) := by
        rw [activations_resolve, ← hfront, ForkEntry.isChain_resolveAll, hfront, written]
    _ ↔ t.written.Pairwise (· ≤ ·) := List.isChain_iff_pairwise

end ForkTable

namespace ForkSchedule

/-- A table makes up a schedule in order just if what it says never decreases, where never is infinity.
A schedule is in order just if in every block no fork is active without those before it. Where two forks
are reported, at some height the later one is active and the earlier one not. A fork that is active at a
height is active at every greater one. -/
theorem order_is_nesting :
    (∀ t : ForkTable, t.resolve.firstDisorder = none ↔ t.written.Pairwise (· ≤ ·)) ∧
      ∀ (s : ForkSchedule) (chainId : Quantity 64),
        (s.firstDisorder = none ↔ ∀ height, (s.rules chainId height).Nested) ∧
        (∀ earlier later, s.firstDisorder = some (earlier, later) →
          ∃ height, (s.rules chainId height).flag later = true ∧
            (s.rules chainId height).flag earlier = false) ∧
        ∀ (f : Fork) (height height' : Height), height ≤ height' →
          (s.rules chainId height).flag f = true → (s.rules chainId height').flag f = true := by
  refine ⟨fun t => ForkTable.firstDisorder_resolve, fun s chainId =>
    ⟨firstDisorder_eq_none_iff_nested chainId, fun earlier later hreport => ?_,
      fun f height height' hle => ?_⟩⟩
  · simp only [flag_rules]
    exact exists_active_of_onset_lt (onset_lt_of_firstDisorder hreport)
  · simp only [flag_rules]
    exact isActive_mono hle

/-- Two forks never become active, one because nothing is said of it, and a third does for all that. -/
def gapped : ForkTable := ⟨.leftOut, .since 5, .never, .leftOut, .since 9⟩

/-- The entries go down from infinity, and at height 9 the last fork is active without the one before
it. -/
theorem gapped_is_no_nesting :
    gapped.resolve = ⟨some 0, some 5, none, none, some 9⟩ ∧
      ¬gapped.written.Pairwise (· ≤ ·) ∧
      (∃ height, (gapped.resolve.rules 1 height).shanghai = true ∧
        (gapped.resolve.rules 1 height).london = false) ∧
      ¬∀ height, (gapped.resolve.rules 1 height).Nested := by
  have hreport : gapped.resolve.firstDisorder = some (.london, .shanghai) := by decide
  have hsome : gapped.resolve.firstDisorder ≠ none := by rw [hreport]; exact nofun
  obtain ⟨htable, hschedule⟩ := order_is_nesting
  obtain ⟨hnested, hheight, -⟩ := hschedule gapped.resolve 1
  exact ⟨by decide, fun h => hsome ((htable gapped).mpr h), hheight _ _ hreport,
    fun h => hsome (hnested.mpr h)⟩

end ForkSchedule

end EvmBank
