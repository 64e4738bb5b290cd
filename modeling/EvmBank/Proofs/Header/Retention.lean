import EvmBank.Proofs.Header.BlockHash
import Mathlib.Data.List.DropRight

/-!
# What a store retains

With a retention, every insertion drops what is too far below the inserted height, which need not be the
highest one. So the headers that came since decide what is found under a height: it is the last one of
the height, unless one of them dropped it (`get?_after_retaining`). None of them drops anything in the
window below the highest height. Right after the highest header nothing else is left, and that stays so
until a header comes that is below the window itself (`window_is_retained`). Such a header is kept, up
to the next one that drops it (`late_header_is_retained`).
-/

namespace EvmBank.HeaderStore

variable {store : HeaderStore} {keep height top : Height} {steps before later : List HeaderStep}
  {s : HeaderStep} {entry : StoredHeader}

/-! ## One insertion -/

theorem satSub_le (height keep : Height) : height.satSub keep ≤ height := by
  rw [Quantity.le_def, Quantity.toNat_satSub]
  exact Nat.sub_le _ _

theorem get?_insert_retaining (hkeep : store.retention = some keep) (entry : StoredHeader)
    (height : Height) :
    (store.insert entry).get? height =
      if height = entry.height then some entry
      else if entry.height.satSub keep ≤ height then store.get? height else none := by
  have hdrops : (store.insert entry).get? height =
      ((store.headers.insert entry.height entry).get? height).filter
        fun _ => entry.height.satSub keep ≤ height := by
    unfold insert
    rw [hkeep]
    exact SortedMap.get?_filter _ _ height
  rw [hdrops, SortedMap.get?_insert]
  split
  · rename_i hsame
    rw [Option.filter_some, if_pos (decide_eq_true (hsame ▸ satSub_le entry.height keep))]
  · change (store.get? height).filter _ = _
    by_cases hreach : entry.height.satSub keep ≤ height
    · cases store.get? height <;> simp [hreach]
    · cases store.get? height <;> simp [hreach]

/-! ## Many insertions -/

/-- What was stored since the last entry of a height. -/
def since (steps : List HeaderStep) (height : Height) : List HeaderStep :=
  steps.rtakeWhile fun s => s.entry.height ≠ height

theorem since_concat (steps : List HeaderStep) (s : HeaderStep) (height : Height) :
    since (steps ++ [s]) height = if height = s.entry.height then [] else since steps height ++ [s] := by
  by_cases h : s.entry.height = height
  · rw [since, List.rtakeWhile_concat_neg _ _ _ (by simp [h]), if_pos h.symm]
  · rw [since, List.rtakeWhile_concat_pos _ _ _ (by simp [h]), if_neg (Ne.symm h), since]

theorem mem_of_mem_since (h : s ∈ since steps height) : s ∈ steps :=
  (List.rtakeWhile_suffix _ _).subset h

/-- What was stored under another height counts, if the height itself did not come behind it. -/
theorem mem_since (hs : s.entry.height ≠ height) (hother : ∀ t ∈ later, t.entry.height ≠ height) :
    s ∈ since (before ++ s :: later) height := by
  induction later using List.reverseRecOn with
  | nil =>
    rw [since_concat, if_neg (Ne.symm hs)]
    exact List.mem_concat_self
  | append_singleton rest t ih =>
    obtain ⟨hrest, ht⟩ := List.forall_mem_append.mp hother
    have hne : t.entry.height ≠ height := ht t (List.mem_singleton_self t)
    rw [← List.cons_append, ← List.append_assoc, since_concat, if_neg (Ne.symm hne)]
    exact List.mem_append_left _ (ih hrest)

theorem retention_after_retaining (keep : Height) (steps : List HeaderStep) :
    ((empty (some keep)).after steps).retention = some keep := by
  induction steps using List.reverseRecOn with
  | nil => rfl
  | append_singleton steps s ih => rw [after_concat, step_eq, retention_insert, ih]

/-- Under a height stands the last entry of it, if none that came since dropped it. -/
theorem get?_after_retaining (keep : Height) (steps : List HeaderStep) (height : Height) :
    ((empty (some keep)).after steps).get? height =
      if ∀ s ∈ since steps height, s.entry.height.satSub keep ≤ height then last? steps height
      else none := by
  induction steps using List.reverseRecOn with
  | nil => rfl
  | append_singleton steps s ih =>
    rw [after_concat, step_eq, get?_insert_retaining (retention_after_retaining keep steps), ih,
      last?_concat, since_concat]
    by_cases hsame : height = s.entry.height
    · simp [hsame]
    · simp only [if_neg hsame, List.forall_mem_append, List.forall_mem_singleton]
      by_cases hreach : s.entry.height.satSub keep ≤ height
      · simp [hreach]
      · simp [hreach]

theorem get?_eq_some_iff (keep : Height) (steps : List HeaderStep) (height : Height)
    (entry : StoredHeader) :
    ((empty (some keep)).after steps).get? height = some entry ↔
      last? steps height = some entry ∧
        ∀ s ∈ since steps height, s.entry.height.satSub keep ≤ height := by
  rw [get?_after_retaining]
  split
  · rename_i hall
    exact (and_iff_left hall).symm
  · rename_i hdropped
    exact ⟨nofun, fun ⟨_, hall⟩ => absurd hall hdropped⟩

/-! ## The window -/

/-- The highest of the heights that were stored under. -/
structure IsHighest (steps : List HeaderStep) (top : Height) : Prop where
  stored : ∃ s ∈ steps, s.entry.height = top
  le : ∀ s ∈ steps, s.entry.height ≤ top

theorem satSub_mono {h h' : Height} (keep : Height) (hle : h ≤ h') :
    h.satSub keep ≤ h'.satSub keep := by
  rw [Quantity.le_def] at *
  rw [Quantity.toNat_satSub, Quantity.toNat_satSub]
  exact Nat.sub_le_sub_right hle _

/-- No insertion up to the highest height drops anything in the window below it. -/
theorem get?_in_window (htop : IsHighest steps top) (hin : top.satSub keep ≤ height)
    (hlast : last? steps height = some entry) :
    ((empty (some keep)).after steps).get? height = some entry := by
  refine (get?_eq_some_iff keep steps height entry).mpr ⟨hlast, fun s hs => ?_⟩
  have hreach := satSub_mono keep (htop.le s (mem_of_mem_since hs))
  rw [Quantity.le_def] at *
  exact Nat.le_trans hreach hin

/-- Behind the highest header all that is stored is in its window, as long as all that comes is. -/
theorem le_of_stored_since_top (hs : s.entry.height = top)
    (hlater : ∀ t ∈ later, top.satSub keep ≤ t.entry.height)
    (hget : ((empty (some keep)).after (before ++ s :: later)).get? height = some entry) :
    top.satSub keep ≤ height := by
  obtain ⟨-, hall⟩ := (get?_eq_some_iff _ _ _ _).mp hget
  by_cases hcame : ∃ t ∈ s :: later, t.entry.height = height
  · obtain ⟨t, ht, rfl⟩ := hcame
    rcases List.mem_cons.mp ht with rfl | ht
    · rw [hs]
      exact satSub_le top keep
    · exact hlater t ht
  · have hother : ∀ t ∈ s :: later, t.entry.height ≠ height := fun t ht heq => hcame ⟨t, ht, heq⟩
    obtain ⟨hne, hnone⟩ := List.forall_mem_cons.mp hother
    have hreach := hall s (mem_since hne hnone)
    rwa [hs] at hreach

/-- A store with a retention has, under a height, the last entry that was stored for it, as long as no
header has come since that is further above the height than the retention reaches. So it has the last
entry of each height that was stored under in the window below the highest one. It has nothing else,
from the highest header on up to a header that is itself below the window. -/
theorem window_is_retained (keep : Height) (steps : List HeaderStep) :
    (∀ height entry, ((empty (some keep)).after steps).get? height = some entry ↔
      last? steps height = some entry ∧
        ∀ s ∈ since steps height, s.entry.height.satSub keep ≤ height) ∧
    ∀ top, IsHighest steps top →
      (∀ height entry, top.satSub keep ≤ height → last? steps height = some entry →
        ((empty (some keep)).after steps).get? height = some entry) ∧
      ∀ before s later, steps = before ++ s :: later → s.entry.height = top →
        (∀ t ∈ later, top.satSub keep ≤ t.entry.height) →
        ∀ height entry, ((empty (some keep)).after steps).get? height = some entry →
          top.satSub keep ≤ height := by
  refine ⟨get?_eq_some_iff keep steps, fun top htop => ⟨fun height entry => get?_in_window htop, ?_⟩⟩
  rintro before s later rfl hs hlater height entry hget
  exact le_of_stored_since_top hs hlater hget

/-- Stores bytes that are no header, without a hash. -/
def bare (height : Height) : HeaderStep := .insert ⟨height, .zero, []⟩

/-- With a retention of two heights, 5 comes behind 6 and stays, and 3 is gone. -/
theorem staggered_window_is_retained :
    let store := (empty (some 2)).after [bare 3, bare 6, bare 5, bare 6]
    IsHighest [bare 3, bare 6, bare 5, bare 6] 6 ∧ store.get? 5 = some (bare 5).entry ∧
      store.get? 3 = none ∧ ∀ height entry, store.get? height = some entry → 4 ≤ height := by
  have htop : IsHighest [bare 3, bare 6, bare 5, bare 6] 6 := ⟨⟨bare 6, by simp, rfl⟩, by decide⟩
  obtain ⟨-, hwindow⟩ := window_is_retained 2 [bare 3, bare 6, bare 5, bare 6]
  obtain ⟨hkept, hdropped⟩ := hwindow 6 htop
  have hfour := hdropped [bare 3] (bare 6) [bare 5, bare 6] rfl rfl (by decide)
  refine ⟨htop, hkept 5 _ (by decide) rfl, ?_, hfour⟩
  exact Option.eq_none_iff_forall_ne_some.mpr fun entry hget => absurd (hfour 3 entry hget) (by decide)

/-- With a retention of two heights, 5 comes behind 10, three below the window, and is kept. -/
theorem late_header_is_retained :
    IsHighest [bare 10, bare 5] 10 ∧
      ((empty (some 2)).after [bare 10, bare 5]).get? 5 = some (bare 5).entry ∧
      ¬(10 : Height).satSub 2 ≤ 5 :=
  ⟨⟨⟨bare 10, by simp, rfl⟩, by decide⟩, by decide, by decide⟩

end EvmBank.HeaderStore
