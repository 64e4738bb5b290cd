/-!
# Actions on a state that may fail

What a composite action did is found out part by part: `run_bind_eq_ok` takes one that succeeded
apart, and `Ends` states what holds when an action ends and what when it stops, with one rule for
each way to build actions. An action that stops keeps what it has changed.
-/

namespace EvmBank.Fallible

variable {ε σ α β : Type}

/-! ## Single runs -/

theorem toOption_eq_some {x : Except ε α} {a : α} : x.toOption = some a ↔ x = .ok a := by
  cases x with
  | error cause => exact ⟨nofun, nofun⟩
  | ok b => rw [Except.toOption, Option.some_inj, Except.ok.injEq]

theorem run_bind (x : ExceptT ε (StateM σ) α) (f : α → ExceptT ε (StateM σ) β) (s : σ) :
    (x >>= f).run.run s =
      match x.run.run s with
      | (.ok a, s') => (f a).run.run s'
      | (.error e, s') => (.error e, s') := by
  rw [ExceptT.run_bind, StateT.run_bind]
  change (match x.run.run s with | p => _) = _
  rcases x.run.run s with ⟨_ | _, _⟩ <;> rfl

theorem run_get_bind (f : σ → ExceptT ε (StateM σ) α) (s : σ) :
    (get >>= f).run.run s = (f s).run.run s := rfl

theorem run_bind_eq_ok {x : ExceptT ε (StateM σ) α} {f : α → ExceptT ε (StateM σ) β} {s s' : σ}
    {b : β} : (x >>= f).run.run s = (.ok b, s') ↔
      ∃ a s₁, x.run.run s = (.ok a, s₁) ∧ (f a).run.run s₁ = (.ok b, s') := by
  rw [run_bind]
  obtain ⟨_ | a, s₁⟩ := x.run.run s
  · constructor
    · rintro ⟨⟩
    · rintro ⟨_, _, ⟨⟩, _⟩
  · constructor
    · exact fun h => ⟨a, s₁, rfl, h⟩
    · rintro ⟨_, _, ⟨⟩, h⟩
      exact h

/-! ## Weakest preconditions -/

/-- From `s` the action ends with a result and a state with `Q`, or stops in a state with `E`. -/
def Ends (x : ExceptT ε (StateM σ) α) (Q : α → σ → Prop) (E : ε → σ → Prop) (s : σ) : Prop :=
  match x.run.run s with
  | (.ok a, s') => Q a s'
  | (.error e, s') => E e s'

variable {Q : α → σ → Prop} {E : ε → σ → Prop} {s : σ}

theorem ends_pure {a : α} : Ends (pure a) Q E s ↔ Q a s := Iff.rfl

theorem ends_throw {e : ε} : Ends (throw e) Q E s ↔ E e s := Iff.rfl

theorem ends_get {Q : σ → σ → Prop} : Ends get Q E s ↔ Q s s := Iff.rfl

theorem ends_modify {f : σ → σ} {Q : PUnit → σ → Prop} : Ends (modify f) Q E s ↔ Q ⟨⟩ (f s) :=
  Iff.rfl

theorem ends_bind {x : ExceptT ε (StateM σ) α} {f : α → ExceptT ε (StateM σ) β}
    {Q : β → σ → Prop} : Ends (x >>= f) Q E s ↔ Ends x (fun a => Ends (f a) Q E) E s := by
  unfold Ends
  rw [run_bind]
  rcases x.run.run s with ⟨_ | _, _⟩ <;> rfl

theorem Ends.mono {x : ExceptT ε (StateM σ) α} {Q' : α → σ → Prop} {E' : ε → σ → Prop}
    (h : Ends x Q E s) (hQ : ∀ a s', Q a s' → Q' a s') (hE : ∀ e s', E e s' → E' e s') :
    Ends x Q' E' s := by
  unfold Ends at *
  revert h
  rcases x.run.run s with ⟨e | a, s'⟩
  · exact hE e s'
  · exact hQ a s'

/-- A step of a composite action that is known to end as `Q` says. -/
theorem Ends.bind {x : ExceptT ε (StateM σ) α} {f : α → ExceptT ε (StateM σ) β}
    {R : β → σ → Prop} (h : Ends x Q E s) (hf : ∀ a s', Q a s' → Ends (f a) R E s') :
    Ends (x >>= f) R E s :=
  ends_bind.mpr (h.mono hf fun _ _ he => he)

theorem Ends.of_run_ok {x : ExceptT ε (StateM σ) α} {a : α} {s' : σ} (h : Ends x Q E s)
    (hx : x.run.run s = (.ok a, s')) : Q a s' := by
  unfold Ends at h
  rwa [hx] at h

theorem Ends.of_run_error {x : ExceptT ε (StateM σ) α} {e : ε} {s' : σ} (h : Ends x Q E s)
    (hx : x.run.run s = (.error e, s')) : E e s' := by
  unfold Ends at h
  rwa [hx] at h

end EvmBank.Fallible
