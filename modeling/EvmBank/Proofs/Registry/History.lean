import EvmBank.Proofs.Document.Pairs
import EvmBank.Proofs.Fallible

/-!
# What becomes of a registry

A registry is changed by registering and toggling pairs, and made up again from its list or from the
text that it was saved as; or a registry of other pairs takes its place. Changed in place, it has its
two views changed one after the other. All that can be wrong is found before, so the answer and the
registry afterwards are those of `Registry.register` and `Registry.toggle`, and a step that fails leaves
the registry as it is (`RegistryAction.run_register`, `RegistryAction.run_toggle`, `step_eq`). Both views
stay inverse to each other whatever the steps are (`Bijective.after`). As long as nothing takes the place
of the registry, no pair is lost, and none changes but for its flag (`extends_after`).
-/

namespace EvmBank

/-! ## Changes in place -/

namespace RegistryAction

/-- A check that refuses changes nothing, and one that passes leaves all to what is behind it. -/
theorem run_check {r : Registry} {refused : Prop} [Decidable refused] {cause : RegistryError}
    {action : RegistryAction Unit} {result : Except RegistryError Registry}
    (h : action.run.run r = (result.map fun _ => (), result.toOption.getD r)) :
    (if refused then throw cause else action : RegistryAction Unit).run.run r =
      ((if refused then .error cause else result).map fun _ => (),
        (if refused then .error cause else result).toOption.getD r) := by
  by_cases hrefused : refused
  · rw [if_pos hrefused, if_pos hrefused]
    rfl
  · rw [if_neg hrefused, if_neg hrefused]
    exact h

theorem run_register (r : Registry) (pair : TokenPair) :
    (register pair).run.run r =
      ((r.register pair).map fun _ => (), (r.register pair).toOption.getD r) := by
  unfold register Registry.register
  rw [Fallible.run_get_bind]
  -- Both make the same four checks, and then change both views.
  refine run_check (run_check (run_check (run_check ?_)))
  rfl

theorem run_toggle (r : Registry) (key : String) :
    (toggle key).run.run r =
      ((r.toggle key).map (·.1), ((r.toggle key).toOption.map (·.2)).getD r) := by
  unfold toggle Registry.toggle Registry.get
  rw [Fallible.run_get_bind]
  cases hfind : r.find? key with
  | none => rfl
  | some named =>
    dsimp only [bind, Except.bind]
    change (get >>= fun _ => _ : RegistryAction TokenPair).run.run r = _
    rw [Fallible.run_get_bind, Registry.lookup]
    cases hlookup : r.pairs.get? named.denom with
    | none => rfl
    | some pair => rfl

theorem run_toggle_of_ok {r r' : Registry} {key : String} {pair : TokenPair}
    (h : r.toggle key = .ok (pair, r')) : (toggle key).run.run r = (.ok pair, r') := by
  rw [run_toggle, h]
  rfl

theorem run_toggle_eq_error {r : Registry} {key : String} {cause : RegistryError} :
    (toggle key).run.run r = (.error cause, r) ↔ r.toggle key = .error cause := by
  rw [run_toggle]
  cases r.toggle key with
  | error cause' =>
    constructor
    · rintro ⟨⟩
      rfl
    · rintro ⟨⟩
      rfl
  | ok result => exact ⟨nofun, nofun⟩

end RegistryAction

/-! ## Steps -/

/-- What is done to a registry. -/
inductive RegistryStep where
  | register (pair : TokenPair)
  | toggle (key : String)
  /-- The registry is made up again from its list. -/
  | relist
  /-- The registry is saved and loaded. -/
  | reload
  /-- A registry of other pairs takes its place. -/
  | convert (pairs : List TokenPair)
  /-- The registry of a text takes its place. -/
  | load (text : String)

/-- The pairs of the registry that takes the place of the one before. -/
def RegistryStep.pairs? : RegistryStep → Option (List TokenPair)
  | convert pairs => some pairs
  | load text => (Json.parse? text).bind (Json.list? TokenPair.ofJson?)
  | register _ | toggle _ | relist | reload => none

namespace Registry

/-- What a step makes of a registry, if it succeeds. -/
def attempt (r : Registry) : RegistryStep → Option Registry
  | .register pair => (r.register pair).toOption
  | .toggle key => (r.toggle key).toOption.map (·.2)
  | .relist => (ofList r.toList).toOption
  | .reload => ofText? r.toText
  | .convert pairs => (ofList pairs).toOption
  | .load text => ofText? text

/-- Another registry takes the place, if there is one. -/
def replacedBy (r : Registry) : Option Registry → Bool × Registry
  | some r' => (true, r')
  | none => (false, r)

/-- Whether a step succeeds, and the registry after it. -/
def step (r : Registry) : RegistryStep → Bool × Registry
  | .register pair =>
    let (result, r') := (RegistryAction.register pair).run.run r
    (result.isOk, r')
  | .toggle key =>
    let (result, r') := (RegistryAction.toggle key).run.run r
    (result.isOk, r')
  | .relist => r.replacedBy (ofList r.toList).toOption
  | .reload => r.replacedBy (ofText? r.toText)
  | .convert pairs => r.replacedBy (ofList pairs).toOption
  | .load text => r.replacedBy (ofText? text)

def after (r : Registry) (steps : List RegistryStep) : Registry :=
  steps.foldl (fun r s => (r.step s).2) r

variable {r r' : Registry} {s : RegistryStep} {pairs : List TokenPair}

/-! ## One step -/

theorem step_eq (r : Registry) (s : RegistryStep) : r.step s = r.replacedBy (r.attempt s) := by
  cases s with
  | register pair =>
    rw [step, RegistryAction.run_register, attempt]
    cases r.register pair <;> rfl
  | toggle key =>
    rw [step, RegistryAction.run_toggle, attempt]
    cases r.toggle key <;> rfl
  | relist | reload | convert _ | load _ => rfl

theorem step_of_attempt (h : r.attempt s = some r') : r.step s = (true, r') := by
  rw [step_eq, h, replacedBy]

theorem step_of_failed (h : r.attempt s = none) : r.step s = (false, r) := by
  rw [step_eq, h, replacedBy]

/-- Another registry is one of the pairs that are given for it. -/
theorem attempt_of_pairs? (h : s.pairs? = some pairs) :
    r.attempt s = (ofList pairs).toOption := by
  cases s with
  | register _ | toggle _ | relist | reload => cases h
  | convert _ =>
    cases h
    rfl
  | load text =>
    obtain ⟨v, hparse, hlist⟩ := Option.bind_eq_some_iff.mp h
    rw [attempt, ofText?, hparse, Option.bind_some, ofJson?, hlist, Option.bind_some]

/-- What is done to a registry itself keeps both views inverse to each other, and all pairs. -/
theorem keeps_of_attempt (hr : r.Bijective) (hs : s.pairs? = none) (h : r.attempt s = some r') :
    r'.Bijective ∧ r.Extends r' := by
  cases s with
  | register pair => exact hr.register (Fallible.toOption_eq_some.mp h)
  | toggle key =>
    obtain ⟨⟨_, _⟩, htoggle, rfl⟩ := Option.map_eq_some_iff.mp h
    exact hr.toggle (Fallible.toOption_eq_some.mp htoggle)
  | relist =>
    cases hr.ofList_toList.symm.trans (Fallible.toOption_eq_some.mp h)
    exact ⟨hr, .refl r⟩
  | reload =>
    cases hr.ofText?_toText.symm.trans h
    exact ⟨hr, .refl r⟩
  | convert _ => cases hs
  | load text =>
    have hnone : ofText? text = none := by
      rw [ofText?]
      cases hparse : Json.parse? text with
      | none => rfl
      | some v =>
        rw [RegistryStep.pairs?, hparse, Option.bind_some] at hs
        rw [Option.bind_some, ofJson?, hs, Option.bind_none]
    cases hnone.symm.trans h

theorem Bijective.step (hr : r.Bijective) (s : RegistryStep) : (r.step s).2.Bijective := by
  cases hattempt : r.attempt s with
  | none =>
    rw [step_of_failed hattempt]
    exact hr
  | some r' =>
    rw [step_of_attempt hattempt]
    cases hpairs : s.pairs? with
    | some pairs =>
      rw [attempt_of_pairs? hpairs] at hattempt
      exact .ofList (Fallible.toOption_eq_some.mp hattempt)
    | none => exact (keeps_of_attempt hr hpairs hattempt).1

/-- No pair is lost where nothing takes the place of the registry. -/
theorem extends_step (hr : r.Bijective) (hs : s.pairs? = none) : r.Extends (r.step s).2 := by
  cases hattempt : r.attempt s with
  | none =>
    rw [step_of_failed hattempt]
    exact .refl r
  | some r' =>
    rw [step_of_attempt hattempt]
    exact (keeps_of_attempt hr hs hattempt).2

/-- What takes the place of a registry holds the given pairs, and nothing else. -/
theorem lookup_step (hs : s.pairs? = some pairs) (h : (r.step s).1 = true) {d : Denom}
    {p : TokenPair} : (r.step s).2.lookup d = some p ↔ p ∈ pairs ∧ p.denom = d := by
  cases hattempt : r.attempt s with
  | none =>
    rw [step_of_failed hattempt] at h
    cases h
  | some r' =>
    rw [step_of_attempt hattempt]
    rw [attempt_of_pairs? hs] at hattempt
    exact lookup_ofList (Fallible.toOption_eq_some.mp hattempt)

/-! ## Many steps -/

theorem Bijective.after (hr : r.Bijective) (steps : List RegistryStep) :
    (r.after steps).Bijective := by
  induction steps generalizing r with
  | nil => exact hr
  | cons s rest ih => exact ih (hr.step s)

theorem extends_after (hr : r.Bijective) {steps : List RegistryStep}
    (hall : ∀ s ∈ steps, s.pairs? = none) : r.Extends (r.after steps) := by
  induction steps generalizing r with
  | nil => exact .refl r
  | cons s rest ih =>
    obtain ⟨hs, hrest⟩ := List.forall_mem_cons.mp hall
    exact (extends_step hr hs).trans (ih (hr.step s) hrest)

/-- Whatever was done to a registry that was empty, its two views are inverse to each other and hold
valid pairs. A pair is refused just where its denomination is invalid or taken, or its address is zero
or taken; otherwise it is one pair more. Toggling a pair turns its flag. Made in place, both changes have
the same answer and leave the same registry, and where they are refused, this one. A step that fails
changes nothing. As long as no other registry takes the place of this one, its pairs stay, up to their
flags; and one that does holds the pairs given for it. The ordered list of the pairs makes up the registry,
and so does the text that it is saved as. -/
theorem views_stay_inverse (steps : List RegistryStep) (hr : empty.after steps = r) :
    (∀ d p, r.lookup d = some p → p.denom = d ∧ r.lookupAddress p.address = some p ∧
      Denom.isValid d = true ∧ p.address ≠ .zero) ∧
    (∀ a p, r.lookupAddress a = some p → p.address = a ∧ r.lookup p.denom = some p) ∧
    (∀ p, (∃ cause, r.register p = .error cause) ↔
      Denom.isValid p.denom = false ∨ p.address = .zero ∨ (r.lookup p.denom).isSome = true ∨
        (r.lookupAddress p.address).isSome = true) ∧
    (∀ p r', r.register p = .ok r' →
      ∀ d, r'.lookup d = if d = p.denom then some p else r.lookup d) ∧
    (∀ key q r', r.toggle key = .ok (q, r') → ∃ p, r.find? key = some p ∧
      q = { p with enabled := !p.enabled } ∧
      ∀ d, r'.lookup d = if d = p.denom then some q else r.lookup d) ∧
    (∀ p, (RegistryAction.register p).run.run r =
      ((r.register p).map fun _ => (), (r.register p).toOption.getD r)) ∧
    (∀ key, (RegistryAction.toggle key).run.run r =
      ((r.toggle key).map (·.1), ((r.toggle key).toOption.map (·.2)).getD r)) ∧
    (∀ s, (r.step s).1 = false → (r.step s).2 = r) ∧
    (∀ more : List RegistryStep, (∀ s ∈ more, s.pairs? = none) →
      ∀ d p, r.lookup d = some p → ∃ enabled, (r.after more).lookup d = some { p with enabled }) ∧
    (∀ s pairs, s.pairs? = some pairs → (r.step s).1 = true →
      ∀ d p, (r.step s).2.lookup d = some p ↔ p ∈ pairs ∧ p.denom = d) ∧
    (∀ p, p ∈ r.toList ↔ r.lookup p.denom = some p) ∧
    (r.toList.Pairwise fun p q => compare p.denom q.denom = .lt) ∧
    ofList r.toList = .ok r ∧ ofText? r.toText = some r := by
  have hbij : r.Bijective := hr ▸ Bijective.empty.after steps
  refine ⟨fun d p h => ?_, fun a p => hbij.of_lookupAddress, fun p => register_eq_error_iff hbij,
    fun p r' h => ?_, fun key q r' h => ?_, RegistryAction.run_register r, RegistryAction.run_toggle r,
    fun s h => ?_, fun more hall => extends_after hbij hall, fun s pairs hs h d p => lookup_step hs h,
    fun p => hbij.mem_toList, hbij.toList_sorted, hbij.ofList_toList, hbij.ofText?_toText⟩
  · exact ⟨hbij.denom_eq h, hbij.lookupAddress_address h, hbij.isValid h, hbij.address_ne_zero h⟩
  · obtain ⟨-, rfl⟩ := register_eq_ok.mp h
    exact lookup_add r p
  · obtain ⟨p, hfind, rfl, rfl⟩ := (toggle_eq_ok hbij).mp h
    exact ⟨p, hfind, rfl, lookup_toggled r p⟩
  · cases hattempt : r.attempt s with
    | none => rw [step_of_failed hattempt]
    | some r' =>
      rw [step_of_attempt hattempt] at h
      cases h

/-- A pair is registered, refused under another address, toggled, and saved and loaded. -/
def smallHistory : List RegistryStep :=
  let pair : TokenPair := ⟨Address.ofLow ⟨170, by decide⟩, "uusdx", true, .external⟩
  [.register pair, .register { pair with address := Address.ofLow ⟨187, by decide⟩ },
    .toggle "uusdx", .reload]

/-- The pair is found under its address, disabled, and the other address is free. -/
theorem smallHistory_stays_inverse :
    ∃ p, (empty.after smallHistory).lookup "uusdx" = some p ∧ p.enabled = false ∧
      (empty.after smallHistory).lookupAddress p.address = some p ∧ p.address ≠ .zero ∧
      ofText? (empty.after smallHistory).toText = some (empty.after smallHistory) := by
  have hlookup : (empty.after smallHistory).lookup "uusdx" =
      some ⟨Address.ofLow ⟨170, by decide⟩, "uusdx", false, .external⟩ := by decide +kernel
  obtain ⟨hviews, -, -, -, -, -, -, -, -, -, -, -, -, htext⟩ := views_stay_inverse smallHistory rfl
  obtain ⟨-, haddress, -, hzero⟩ := hviews _ _ hlookup
  exact ⟨_, hlookup, rfl, haddress, hzero, htext⟩

end Registry

end EvmBank
